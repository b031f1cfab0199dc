import TreeWatch.Proofs.Config.Checked
import TreeWatch.Proofs.Observer.Repetition
import TreeWatch.Proofs.Snapshot.Trail

/-!
# What a configured observer sees

What the patterns of a specification and its word on hidden names make of the names that lead from
a root to something (`ObserverSpec.Selects`), and that this is what the filter of its observer says
of them, however the filter was put together (`ObserverSpec.accepts_iff`). So the snapshot of a
configured observer has what can be reached by names that are selected, and nothing else
(`Settings.sees_iff`).
-/

namespace TreeWatch

open Pattern (Glob)

namespace Profile

def Matches (patterns : List String) (sensitivity : CaseSensitivity) (text : String) : Prop :=
  ∃ pattern ∈ patterns, ∃ glob,
    Glob.parse (globOptions sensitivity) pattern = .ok glob ∧ glob.isMatch text = true

/-- How the path of names below a root is matched: with slashes between them, and in the place of
backslashes. -/
def textOf (names : List String) : String :=
  String.ofList (("/".intercalate names).toList.map fun c => if c = '\\' then '/' else c)

variable {patterns : List String} {sensitivity : CaseSensitivity} {text : String}
  {globs : List Glob} {names : List String}

theorem matches_iff_any : Matches patterns sensitivity text ↔ patterns.any (fun pattern =>
    match Glob.parse (globOptions sensitivity) pattern with
    | .ok glob => glob.isMatch text
    | .error _ => false) = true := by
  rw [Matches, List.any_eq_true]
  refine exists_congr fun pattern => and_congr_right fun _ => ?_
  cases Glob.parse (globOptions sensitivity) pattern <;> simp

instance : Decidable (Matches patterns sensitivity text) := decidable_of_iff _ matches_iff_any.symm

theorem anyMatch_iff (h : compile patterns sensitivity = .ok globs) :
    Glob.anyMatch globs text = true ↔ Matches patterns sensitivity text := by
  rw [compile, Glob.parseAll] at h
  induction patterns generalizing globs with
  | nil =>
      obtain rfl := Except.ok.inj h
      simp [Glob.anyMatch, Matches]
  | cons pattern patterns ih =>
      rw [List.mapM_cons] at h
      obtain ⟨glob, hglob, htail⟩ := Settings.bind_eq_ok_iff.1 h
      obtain ⟨rest, hrest, heq⟩ := Settings.bind_eq_ok_iff.1 htail
      obtain rfl := Except.ok.inj heq
      have ih := ih hrest
      simp only [Glob.anyMatch, List.any_cons, Bool.or_eq_true] at ih ⊢
      rw [ih]
      simp [Matches, hglob]

theorem relativeText?_descend (p : Profile) (hroot : p.root.isEmpty = false)
    (h : ∀ n ∈ names, IsName n) (hne : names ≠ []) :
    p.relativeText? (p.root.descend names) = some (textOf names) := by
  rw [relativeText?, Path.relativeTo?_descend hroot h hne]
  rfl

end Profile

/-- The names that lead to something are of interest: none of them is hidden if hidden names are to
be ignored, no directory on the way and not the thing itself is left out, and if there is anything
to ask for, then it is asked for, unless it is a directory. -/
structure ObserverSpec.Selects (spec : ObserverSpec) (names : List String) (isDirectory : Bool) :
    Prop where
  visible : spec.ignoreHidden = true → ∀ n ∈ names, n.toList.head? ≠ some '.'
  reached : ∀ k < names.length, 0 < k →
    ¬ Profile.Matches spec.excludes spec.sensitivity (Profile.textOf (names.take k))
  not_excluded : ¬ Profile.Matches spec.excludes spec.sensitivity (Profile.textOf names)
  included : isDirectory = false → spec.includes ≠ [] →
    Profile.Matches spec.includes spec.sensitivity (Profile.textOf names)

namespace ObserverSpec

variable {spec : ObserverSpec} {base : Path} {o : Observer} {names : List String}
  {isDirectory : Bool}

instance : Decidable (spec.Selects names isDirectory) :=
  decidable_of_iff ((spec.ignoreHidden = true → ∀ n ∈ names, n.toList.head? ≠ some '.') ∧
    (∀ k < names.length, 0 < k →
      ¬ Profile.Matches spec.excludes spec.sensitivity (Profile.textOf (names.take k))) ∧
    ¬ Profile.Matches spec.excludes spec.sensitivity (Profile.textOf names) ∧
    (isDirectory = false → spec.includes ≠ [] →
      Profile.Matches spec.includes spec.sensitivity (Profile.textOf names)))
    ⟨fun ⟨h₁, h₂, h₃, h₄⟩ => ⟨h₁, h₂, h₃, h₄⟩, fun ⟨h₁, h₂, h₃, h₄⟩ => ⟨h₁, h₂, h₃, h₄⟩⟩

theorem isExcluded_profile_iff (base : Path) (is : List Glob) {es : List Glob} {text : String}
    (hexcludes : Profile.compile spec.excludes spec.sensitivity = .ok es) :
    (spec.profile base is es).isExcluded text = true ↔
      Profile.Matches spec.excludes spec.sensitivity text := by
  rw [Profile.isExcluded, profile, ← Profile.anyMatch_iff hexcludes]
  cases hempty : spec.excludes.isEmpty with
  | true =>
      rw [List.isEmpty_iff.1 hempty] at hexcludes
      obtain rfl := Except.ok.inj hexcludes
      simp [Glob.anyMatch]
  | false => simp

theorem isIncluded_profile_iff (base : Path) {is : List Glob} (es : List Glob) {text : String}
    (hincludes : Profile.compile spec.includes spec.sensitivity = .ok is) :
    (spec.profile base is es).isIncluded text = true ↔
      (spec.includes ≠ [] → Profile.Matches spec.includes spec.sensitivity text) := by
  rw [Profile.isIncluded, profile, ← Profile.anyMatch_iff hincludes]
  cases hempty : spec.includes.isEmpty with
  | true => simp [List.isEmpty_iff.1 hempty]
  | false =>
      have hne : spec.includes ≠ [] := by simpa [List.isEmpty_iff] using hempty
      simp [hne]

theorem accepts_profile_iff {is es : List Glob} (hspec : spec.Valid) (base : Path)
    (hincludes : Profile.compile spec.includes spec.sensitivity = .ok is)
    (hexcludes : Profile.compile spec.excludes spec.sensitivity = .ok es)
    (hnames : ∀ n ∈ names, IsName n) (hne : names ≠ []) (isDirectory : Bool) :
    (spec.profile base is es).accepts ((spec.root base).descend names) isDirectory = true ↔
      ¬ Profile.Matches spec.excludes spec.sensitivity (Profile.textOf names) ∧
      (isDirectory = false → spec.includes ≠ [] →
        Profile.Matches spec.includes spec.sensitivity (Profile.textOf names)) := by
  have htext : (spec.profile base is es).relativeText? ((spec.root base).descend names)
      = some (Profile.textOf names) :=
    (spec.profile base is es).relativeText?_descend (hspec.isEmpty_root base) hnames hne
  rw [Profile.accepts, htext, ← isExcluded_profile_iff base is hexcludes,
    ← isIncluded_profile_iff base es hincludes]
  cases isDirectory <;> simp [Profile.admits, and_comm]

/-- However the filter of an observer was put together, this is what it says. -/
theorem accepts_iff (hspec : spec.Valid) (ho : spec.observer base = .ok o) (contents : Contents)
    (hnames : ∀ n ∈ names, IsName n) (hne : names ≠ []) (a : Attributes) :
    o.accepts contents (o.root.descend names) a = true ↔
      (spec.ignoreHidden = true → (names.getLast hne).toList.head? ≠ some '.') ∧
      ¬ Profile.Matches spec.excludes spec.sensitivity (Profile.textOf names) ∧
      (a.isDirectory = false → spec.includes ≠ [] →
        Profile.Matches spec.includes spec.sensitivity (Profile.textOf names)) := by
  obtain ⟨is, his⟩ := hspec.includes
  obtain ⟨es, hes⟩ := hspec.excludes
  rw [hspec.observer_eq_ok (filter_eq_ok his hes base)] at ho
  obtain rfl := Except.ok.inj ho
  have hvisible : (!Filter.isHiddenName ((spec.root base).descend names)) = true ↔
      (names.getLast hne).toList.head? ≠ some '.' := by
    simp [Filter.isHiddenName, Path.baseName_descend hnames hne]
  have hprofile := accepts_profile_iff hspec base his hes hnames hne a.isDirectory
  rw [← hprofile, ← hvisible, Observer.accepts]
  by_cases hnone : spec.includes.isEmpty && spec.excludes.isEmpty
  · -- nothing is left out by patterns, and so there is no profile
    have hall : (spec.profile base is es).accepts ((spec.root base).descend names) a.isDirectory
        = true := by
      rw [Bool.and_eq_true, List.isEmpty_iff, List.isEmpty_iff] at hnone
      rw [hprofile]
      simp [hnone, Profile.Matches]
    cases spec.ignoreHidden <;> simp [hnone, hall, Filter.accepts]
  · cases spec.ignoreHidden <;>
      simp [hnone, Filter.accepts, Filter.accepts.acceptsAll]

variable {s : Store} {a : Attributes}

theorem selects_of_clears (hspec : spec.Valid) (ho : spec.observer base = .ok o)
    {contents : Contents} (hnames : ∀ n ∈ names, IsName n)
    (h : s.Clears (o.accepts contents) o.root names a) : spec.Selects names a.isDirectory := by
  have hinitial (initial : List String) (hne : initial ≠ []) (hinit : initial <+: names) :
      (spec.ignoreHidden = true → (initial.getLast hne).toList.head? ≠ some '.') ∧
      ¬ Profile.Matches spec.excludes spec.sensitivity (Profile.textOf initial) := by
    obtain ⟨b, hb⟩ := h.exists_accepts hne hinit
    have hnames' : ∀ n ∈ initial, IsName n := fun n hn => hnames n (hinit.subset hn)
    obtain ⟨hvisible, hexcluded, -⟩ := (accepts_iff hspec ho contents hnames' hne b).1 hb
    exact ⟨hvisible, hexcluded⟩
  have hne := h.trail.ne_nil
  constructor
  · intro hidden n hn
    obtain ⟨before, after, rfl⟩ := List.append_of_mem hn
    have hinit : before ++ [n] <+: before ++ n :: after := ⟨after, by simp⟩
    simpa using (hinitial (before ++ [n]) (by simp) hinit).1 hidden
  · intro k hk hpos
    exact (hinitial (names.take k) (by simp [hne]; omega) (List.take_prefix k names)).2
  · exact (hinitial names hne List.prefix_rfl).2
  · exact ((accepts_iff hspec ho contents hnames hne a).1 h.accepts_eq).2.2

theorem Selects.clears (hspec : spec.Valid) (ho : spec.observer base = .ok o)
    (contents : Contents) (hnames : ∀ n ∈ names, IsName n) (htrail : s.Trail o.root names a)
    (h : spec.Selects names a.isDirectory) : s.Clears (o.accepts contents) o.root names a where
  trail := htrail
  between := by
    intro initial hne hinit hproper b hb
    obtain ⟨b', hb', hdir⟩ := htrail.exists_linkMetadata hne hinit hproper
    obtain rfl : b = b' := Except.ok.inj (hb.symm.trans hb')
    have hlength : initial.length < names.length :=
      lt_of_le_of_ne hinit.length_le fun heq => hproper (hinit.eq_of_length heq)
    have hreached := h.reached initial.length hlength (List.length_pos_iff.2 hne)
    rw [← List.prefix_iff_eq_take.1 hinit] at hreached
    refine (accepts_iff hspec ho contents (fun n hn => hnames n (hinit.subset hn)) hne b).2
      ⟨fun hidden => ?_, hreached, by simp [hdir]⟩
    exact h.visible hidden _ (hinit.subset (List.getLast_mem hne))
  accepts_eq := (accepts_iff hspec ho contents hnames htrail.ne_nil a).2
    ⟨fun hidden => h.visible hidden _ (List.getLast_mem _), h.not_excluded, h.included⟩

end ObserverSpec

theorem Comparator.name_eq_of_order {sensitivity : CaseSensitivity}
    (h : sensitivity.isSensitive = true) (x y : Entry)
    (hxy : (Comparator.name sensitivity).order x y = .eq) : x.name = y.name := by
  have hcompare : Ord.compare x.name y.name = .eq := by
    simpa [Comparator.order, CaseSensitivity.order, CaseSensitivity.fold, h] using hxy
  exact compare_eq_iff_eq.1 hcompare

theorem ObserverSpec.root_and_comparator_of_observer {spec : ObserverSpec} {base : Path}
    {o : Observer} (hspec : spec.Valid) (ho : spec.observer base = .ok o) :
    o.root = spec.root base ∧ o.comparator = .name spec.sensitivity := by
  obtain ⟨f, hobserver⟩ := hspec.exists_observer_eq_ok base
  obtain rfl := Except.ok.inj (hobserver.symm.trans ho)
  exact ⟨rfl, rfl⟩

theorem Observer.survey_fileSystem (o : Observer) (s : Store) : o.survey s.fileSystem
    = s.capture (o.accepts fun _ => none) o.comparator.toEntryOrder o.root := rfl

namespace Settings

open Life

variable {σ : Type}

/-- Whatever is done with the observer of a checked specification, whenever it takes a snapshot, it
has what can be reached from its root by names that are selected, and nothing else. -/
theorem sees_iff {s : Settings} {c : Config} (hc : s.check = .ok c) {spec : ObserverSpec}
    (hspec : spec ∈ c.observers) (hcase : spec.sensitivity.isSensitive = true) {base : Path}
    {o : Observer} (ho : spec.observer base = .ok o) {host : σ → Host (StateM σ)}
    {store : σ → Store} (hhost : ∀ w, (host w).Reads (fun w => (store w).fileSystem)
      (store w).fileSystem) (w : σ) (calls : List (Call σ)) {x : Life σ}
    (hx : run host ⟨o, w, []⟩ calls = x) {changes : List StoreChange}
    (hstore : store x.world = .ofChanges changes) {call : Call σ} {e : Entry}
    (hattempt : x.attempt host call = some (.ok e)) :
    (∃ written, s.observers[spec.name]? = some written ∧
      spec = written.effective s.defaults spec.name) ∧
    o.root = spec.root base ∧ (x.turn host call).2.observer.snapshot = e ∧
    ∀ names, names ≠ [] → (∀ n ∈ names, IsName n) →
      (∀ p : Profile, p.root = o.root →
        p.relativeText? (o.root.descend names) = some (Profile.textOf names)) ∧
      ∀ isDirectory, (∃ y ∈ e.descendants, y.path = o.root.descend names ∧
          y.isDirectory = isDirectory) ↔
        (∃ a, a.isDirectory = isDirectory ∧ (store x.world).Trail o.root names a) ∧
          spec.Selects names isDirectory := by
  obtain ⟨hvalid, -, hobservers⟩ := check_eq_ok_iff.1 hc
  rw [hobservers] at hspec
  have hspecValid := hvalid.valid_of_mem_effective hspec
  obtain ⟨⟨name, written⟩, hwritten, rfl⟩ := List.mem_map.1 hspec
  obtain ⟨hroot, hcomparator⟩ := ObserverSpec.root_and_comparator_of_observer hspecValid ho
  have horigin : x.observer.origin = o.origin := by
    rw [← hx]
    exact origin_run host _ calls
  have he : o.survey (store x.world).fileSystem = .ok e := by
    calc o.survey (store x.world).fileSystem
      _ = o.origin.survey (store x.world).fileSystem := rfl
      _ = x.observer.origin.survey (store x.world).fileSystem := by rw [horigin]
      _ = .ok e := survey_of_attempt hhost hattempt
  rw [hstore, Observer.survey_fileSystem] at he
  refine ⟨⟨written, Std.TreeMap.mem_toList_iff_getElem?_eq_some.1 hwritten, rfl⟩, hroot, ?_,
    fun names hne hnames => ⟨fun p hp => ?_, fun isDirectory => ?_⟩⟩
  · rw [(x.turn_turn host call).snapshot_eq, hattempt]
    rfl
  · rw [← hp]
    exact p.relativeText?_descend (by rw [hp, hroot, hspecValid.isEmpty_root]) hnames hne
  · rw [Store.exists_mem_descendants_iff_clears
      (hcomparator ▸ Comparator.name_eq_of_order hcase) he hnames, hstore]
    constructor
    · rintro ⟨a, rfl, hclears⟩
      exact ⟨⟨a, rfl, hclears.trail⟩, ObserverSpec.selects_of_clears hspecValid ho hnames hclears⟩
    · rintro ⟨⟨a, rfl, htrail⟩, hselects⟩
      exact ⟨a, rfl, hselects.clears hspecValid ho _ hnames htrail⟩

def sourceTree : List StoreChange :=
  [.addFile ⟨"/base/src/lib/d.toml"⟩ 2 .epoch, .addFile ⟨"/base/src/target/b.rs"⟩ 3 .epoch,
    .addFile ⟨"/base/src/.git/c.rs"⟩ 4 .epoch, .addFile ⟨"/base/src/x.txt"⟩ 5 .epoch]

def sources : ObserverSpec :=
  ⟨"sources", ⟨"src"⟩, ["**/*.toml", "**/*.rs"], ["**/target"], .sensitive, true⟩

theorem reads_hearing (s : Store) :
    (hearing s).Reads (fun s => s.fileSystem) s.fileSystem where
  metadata _ _ h := ⟨rfl, h⟩
  linkMetadata _ _ h := ⟨rfl, h⟩
  list _ _ h := ⟨rfl, h⟩
  note _ _ h := h
  contents_eq := rfl
  depthLimit_eq := rfl

theorem list_sourceTree : (Store.ofChanges sourceTree).list ⟨"/base/src"⟩ = .ok [⟨"/base/src/lib"⟩,
    ⟨"/base/src/target"⟩, ⟨"/base/src/.git"⟩, ⟨"/base/src/x.txt"⟩] := by
  decide +kernel

theorem trail_sourceTree :
    (Store.ofChanges sourceTree).Trail ⟨"/base/src"⟩ ["lib", "d.toml"] (.file 2 .epoch) := by
  have hlib : (Store.ofChanges sourceTree).list ⟨"/base/src/lib"⟩
      = .ok [⟨"/base/src/lib/d.toml"⟩] := by decide +kernel
  exact .step list_sourceTree (by decide +kernel) (b := .directory .epoch) (by decide +kernel) rfl
    (.last hlib (by decide +kernel) (by decide +kernel))

theorem exists_attempt_sources : ∃ o e, sources.observer ⟨"/base"⟩ = .ok o ∧
    o.root = ⟨"/base/src"⟩ ∧
    attempt hearing ⟨o, Store.ofChanges sourceTree, []⟩ .check = some (.ok e) := by
  have hvalid : sources.Valid := by
    obtain ⟨hvalid, -, hobservers⟩ := check_eq_ok_iff.1 check_mixed
    refine hvalid.valid_of_mem_effective (hobservers ▸ ?_)
    exact List.mem_cons_of_mem _ List.mem_cons_self
  have hroot : sources.root ⟨"/base"⟩ = ⟨"/base/src"⟩ := by decide +kernel
  have hstat : (Store.ofChanges sourceTree).metadata ⟨"/base/src"⟩ = .ok (.directory .epoch) := by
    decide +kernel
  obtain ⟨f, ho⟩ := hvalid.exists_observer_eq_ok ⟨"/base"⟩
  rw [hroot] at ho
  obtain ⟨e, he⟩ := Store.exists_capture_eq_ok hstat list_sourceTree
  refine ⟨_, e, ho, rfl, ?_⟩
  rw [attempt_of_ne_destroyed hearing (by simp) (.inr rfl), Observer.capture_of_reads _
    (reads_hearing _), Observer.survey_fileSystem]
  exact congrArg some he

theorem sees_iff_sources : ∃ o e, sources.observer ⟨"/base"⟩ = .ok o ∧
    attempt hearing ⟨o, Store.ofChanges sourceTree, []⟩ .check = some (.ok e) ∧
    (∃ y ∈ e.descendants, y.path = ⟨"/base/src/lib/d.toml"⟩ ∧ y.isDirectory = false) ∧
    ¬ ∃ y ∈ e.descendants, y.path = ⟨"/base/src/target/b.rs"⟩ ∧ y.isDirectory = false := by
  obtain ⟨o, e, ho, hroot, hattempt⟩ := exists_attempt_sources
  obtain ⟨-, -, -, hsees⟩ := sees_iff check_mixed (List.mem_cons_of_mem _ List.mem_cons_self) rfl
    ho reads_hearing _ [] rfl rfl hattempt
  rw [hroot] at hsees
  refine ⟨o, e, ho, hattempt, ?_, fun htarget => ?_⟩
  · refine ((hsees ["lib", "d.toml"] (by simp) (by decide +kernel)).2 false).2
      ⟨⟨_, rfl, trail_sourceTree⟩, ?_⟩
    decide +kernel
  · have hselects :=
      (((hsees ["target", "b.rs"] (by simp) (by decide +kernel)).2 false).1 htarget).2
    have hnot : ¬ sources.Selects ["target", "b.rs"] false := by decide +kernel
    exact hnot hselects

end Settings

end TreeWatch
