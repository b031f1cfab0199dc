import Mathlib
import TreeWatch.Config.Basic
import TreeWatch.Monitor

/-!
# Checked settings

Settings pass their check just when they are valid: some observer is asked for, the interval is a
time that is not zero, and each observer, once it has taken over the defaults, has a path and
patterns that are globs (`Settings.check_eq_ok_iff`). For checked settings nothing can fail any
more, wherever relative paths start: there is an observer for each specification, and a monitor
for the interval (`Settings.valid_iff_and_builds`).
-/

namespace TreeWatch

def ObserverSection.effective (o : ObserverSection) (defaults : DefaultSection) (name : String) :
    ObserverSpec where
  name := name
  path := ⟨o.path⟩
  includes := effectivePatterns o.includes defaults.includes o.appendIncludes
  excludes := effectivePatterns o.excludes defaults.excludes o.appendExcludes
  sensitivity := o.sensitivity.getD defaults.sensitivity
  ignoreHidden := o.ignoreHidden.getD defaults.ignoreHidden

structure ObserverSpec.Valid (spec : ObserverSpec) : Prop where
  path : ∃ c ∈ spec.path.text.toList, Text.isBlank c = false
  includes : ∃ globs, Profile.compile spec.includes spec.sensitivity = .ok globs
  excludes : ∃ globs, Profile.compile spec.excludes spec.sensitivity = .ok globs

namespace Settings

structure Valid (s : Settings) : Prop where
  exists_observer : ∃ name, name ∈ s.observers
  interval : ∃ t, Duration.parse s.monitor.interval = .ok t ∧ t.nanoseconds ≠ 0
  observers : ∀ (name : String) (o : ObserverSection), s.observers[name]? = some o →
    (o.effective s.defaults name).Valid

def effective (s : Settings) : List ObserverSpec :=
  s.observers.toList.map fun e => e.2.effective s.defaults e.1

variable {s : Settings} {d : DefaultSection} {name : String} {o : ObserverSection}
  {spec : ObserverSpec} {c : Config}

theorem checkInterval_eq_ok_iff {written : String} {t : Duration} :
    checkInterval written = .ok t ↔ Duration.parse written = .ok t ∧ t.nanoseconds ≠ 0 := by
  rw [checkInterval]
  cases Duration.parse written with
  | error e => simp
  | ok t' =>
      by_cases hzero : t'.nanoseconds = 0
      · simp only [Duration.isZero, hzero]
        grind
      · simp only [Duration.isZero, beq_iff_eq, hzero]
        grind

theorem checkGlobs_eq_ok_iff {patterns : List String} {sensitivity : CaseSensitivity}
    {u : Unit} : checkGlobs name patterns sensitivity = .ok u ↔
      ∃ globs, Profile.compile patterns sensitivity = .ok globs := by
  rw [checkGlobs]
  cases Profile.compile patterns sensitivity <;> simp

theorem bind_eq_ok_iff {ε α β : Type} {x : Except ε α} {f : α → Except ε β} {b : β} :
    x >>= f = .ok b ↔ ∃ a, x = .ok a ∧ f a = .ok b := by
  cases x <;> simp [bind, Except.bind]

theorem checkObserver_eq_ok_iff : checkObserver d name o = .ok spec ↔
    (o.effective d name).Valid ∧ spec = o.effective d name := by
  rw [checkObserver]
  cases hblank : Text.isAllBlank o.path with
  | true =>
      simp only [if_true, reduceCtorEq, false_iff, not_and]
      rintro ⟨⟨c, hc, hblank'⟩, -, -⟩
      rw [Text.isAllBlank, List.all_eq_true] at hblank
      simp [hblank c hc] at hblank'
  | false =>
      have hpath : ∃ c ∈ o.path.toList, Text.isBlank c = false := by
        simpa [Text.isAllBlank] using hblank
      simp only [Bool.false_eq_true, if_false, bind_eq_ok_iff, checkGlobs_eq_ok_iff]
      constructor
      · rintro ⟨_, hincludes, _, hexcludes, hspec⟩
        exact ⟨⟨hpath, hincludes, hexcludes⟩, (Except.ok.inj hspec).symm⟩
      · rintro ⟨⟨-, hincludes, hexcludes⟩, rfl⟩
        exact ⟨(), hincludes, (), hexcludes, rfl⟩

theorem checkObservers_eq_ok_iff {os : List (String × ObserverSection)}
    {specs : List ObserverSpec} : checkObservers d os = .ok specs ↔
      (∀ e ∈ os, (e.2.effective d e.1).Valid) ∧ specs = os.map fun e => e.2.effective d e.1 := by
  induction os generalizing specs with
  | nil => simp [checkObservers, eq_comm]
  | cons e os ih =>
      obtain ⟨name, o⟩ := e
      simp only [checkObservers, bind_eq_ok_iff, checkObserver_eq_ok_iff, ih, List.map_cons,
        List.forall_mem_cons]
      constructor
      · rintro ⟨_, ⟨hvalid, rfl⟩, _, ⟨hrest, rfl⟩, hspecs⟩
        exact ⟨⟨hvalid, hrest⟩, (Except.ok.inj hspecs).symm⟩
      · rintro ⟨⟨hvalid, hrest⟩, rfl⟩
        exact ⟨_, ⟨hvalid, rfl⟩, _, ⟨hrest, rfl⟩, rfl⟩

theorem check_eq_ok_iff : s.check = .ok c ↔ s.Valid ∧
    Duration.parse s.monitor.interval = .ok c.interval ∧ c.observers = s.effective := by
  have hall : (∀ e ∈ s.observers.toList, (e.2.effective s.defaults e.1).Valid) ↔
      ∀ (name : String) (o : ObserverSection), s.observers[name]? = some o →
        (o.effective s.defaults name).Valid := by
    simp [Std.TreeMap.mem_toList_iff_getElem?_eq_some]
  rw [check]
  cases hempty : s.observers.isEmpty with
  | true =>
      simp only [if_true, reduceCtorEq, false_iff, not_and]
      rintro ⟨⟨name, hname⟩, -, -⟩
      exact absurd hname (Std.TreeMap.isEmpty_iff_forall_not_mem.1 hempty name)
  | false =>
      have hexists := Std.TreeMap.isEmpty_eq_false_iff_exists_mem.1 hempty
      simp only [Bool.false_eq_true, if_false, bind_eq_ok_iff, checkInterval_eq_ok_iff,
        checkObservers_eq_ok_iff, hall]
      constructor
      · rintro ⟨t, ⟨hparse, ht⟩, _, ⟨hvalid, rfl⟩, hc⟩
        obtain rfl := Except.ok.inj hc
        exact ⟨⟨hexists, ⟨t, hparse, ht⟩, hvalid⟩, hparse, rfl⟩
      · rintro ⟨⟨-, ⟨t, hparse, ht⟩, hvalid⟩, hparse', hobservers⟩
        obtain rfl := Except.ok.inj (hparse.symm.trans hparse')
        exact ⟨_, ⟨hparse, ht⟩, _, ⟨hvalid, rfl⟩, by rw [← effective, ← hobservers]; rfl⟩

theorem keys_effective (s : Settings) :
    s.effective.map ObserverSpec.name = s.observers.keys := by
  rw [effective, List.map_map, ← Std.TreeMap.map_fst_toList_eq_keys]
  rfl

end Settings

theorem Profile.make_eq_ok {root : Path} {includes excludes : List String}
    {sensitivity : CaseSensitivity} {is es : List Pattern.Glob}
    (hincludes : compile includes sensitivity = .ok is)
    (hexcludes : compile excludes sensitivity = .ok es) :
    make root includes excludes sensitivity = .ok ⟨root, includes, excludes,
      if includes.isEmpty then none else some is, if excludes.isEmpty then none else some es⟩ := by
  rw [make, compileSome, compileSome, hincludes, hexcludes]
  cases includes <;> cases excludes <;> rfl

theorem Path.isEmpty_join {base p : Path} (h : p.isEmpty = false) :
    (base.join p).isEmpty = false := by
  rw [join]
  split
  · exact h
  · split <;> simp_all [isEmpty]

namespace ObserverSpec

variable {spec : ObserverSpec} {base : Path} {is es : List Pattern.Glob}

def profile (spec : ObserverSpec) (base : Path) (is es : List Pattern.Glob) : Profile :=
  ⟨spec.root base, spec.includes, spec.excludes,
    if spec.includes.isEmpty then none else some is,
    if spec.excludes.isEmpty then none else some es⟩

theorem filter_eq_ok (hincludes : Profile.compile spec.includes spec.sensitivity = .ok is)
    (hexcludes : Profile.compile spec.excludes spec.sensitivity = .ok es) (base : Path) :
    spec.filter base = .ok (
      if spec.includes.isEmpty && spec.excludes.isEmpty then
        if spec.ignoreHidden then some .visible else none
      else if spec.ignoreHidden then some (.all [.visible, .profile (spec.profile base is es)])
      else some (.profile (spec.profile base is es))) := by
  rw [filter, Filter.ofProfile, Profile.make_eq_ok hincludes hexcludes, profile]
  split <;> cases spec.ignoreHidden <;> rfl

theorem Valid.isEmpty_root (h : spec.Valid) (base : Path) : (spec.root base).isEmpty = false := by
  obtain ⟨c, hc, _⟩ := h.path
  have hpath : spec.path.isEmpty = false := by
    rw [Path.isEmpty]
    by_contra hempty
    simp_all
  rw [root]
  split
  · exact hpath
  · exact Path.isEmpty_join hpath

/-- A valid specification asks for an observer that has not begun yet. -/
theorem Valid.observer_eq_ok (h : spec.Valid) {f : Option Filter} (hf : spec.filter base = .ok f) :
    spec.observer base = .ok ⟨spec.root base, f, spec.sensitivity, .name spec.sensitivity, [],
      .uninitialized, .missing (spec.root base), 0⟩ := by
  rw [observer, hf]
  simp only [bind, Except.bind, Observer.make, h.isEmpty_root base]
  rfl

theorem Valid.exists_observer_eq_ok (h : spec.Valid) (base : Path) :
    ∃ f, spec.observer base = .ok ⟨spec.root base, f, spec.sensitivity, .name spec.sensitivity, [],
      .uninitialized, .missing (spec.root base), 0⟩ := by
  obtain ⟨is, his⟩ := h.includes
  obtain ⟨es, hes⟩ := h.excludes
  exact ⟨_, h.observer_eq_ok (filter_eq_ok his hes base)⟩

structure Yields (spec : ObserverSpec) (base : Path) (o : Observer) : Prop where
  observer_eq : ∃ l, spec.observer base = .ok { o with listeners := [] } ∧ o.listeners = [l]
  root_eq : o.root = spec.root base
  isEmpty_root : o.root.isEmpty = false

theorem Valid.exists_yields (h : spec.Valid) (base : Path) (l : ListenerId) :
    ∃ o, spec.observer base = .ok o ∧ spec.Yields base (o.addListener l) := by
  obtain ⟨f, hobserver⟩ := h.exists_observer_eq_ok base
  exact ⟨_, hobserver, ⟨l, hobserver, rfl⟩, rfl, h.isEmpty_root base⟩

theorem exists_observers? {specs : List ObserverSpec} (h : ∀ spec ∈ specs, spec.Valid)
    (base : Path) (l : ListenerId) : ∃ os, Config.observers? base l specs = .ok os ∧
      List.Forall₂ (fun spec o => spec.Yields base o) specs os := by
  induction specs generalizing l with
  | nil => exact ⟨[], rfl, .nil⟩
  | cons spec specs ih =>
      obtain ⟨hspec, hspecs⟩ := List.forall_mem_cons.1 h
      obtain ⟨o, hobserver, hyields⟩ := hspec.exists_yields base l
      obtain ⟨os, hrest, hall⟩ := ih hspecs (l + 1)
      refine ⟨o.addListener l :: os, ?_, .cons hyields hall⟩
      rw [Config.observers?, hobserver]
      simp only [bind, Except.bind, hrest]
      rfl

end ObserverSpec

namespace Settings

theorem Valid.valid_of_mem_effective {s : Settings} (h : s.Valid) {spec : ObserverSpec}
    (hspec : spec ∈ s.effective) : spec.Valid := by
  obtain ⟨⟨name, o⟩, ho, rfl⟩ := List.mem_map.1 hspec
  exact h.observers name o (Std.TreeMap.mem_toList_iff_getElem?_eq_some.1 ho)

/-- Settings pass their check just when they are valid. Whatever passes can be run: wherever
relative paths start, there is one observer for each observer that is asked for, by name in
increasing order, and each has a root and one listener; and there is a monitor for the interval. -/
theorem valid_iff_and_builds (s : Settings) :
    ((∃ c, s.check = .ok c) ↔ s.Valid) ∧
    ∀ c, s.check = .ok c →
      c.observers.map ObserverSpec.name = s.observers.keys ∧
      (c.observers.map ObserverSpec.name).Pairwise (· < ·) ∧
      (∀ base, ∃ os, c.buildObservers base = .ok os ∧
        List.Forall₂ (fun spec o => spec.Yields base o) c.observers os) ∧
      ∃ m, Monitor.make c.interval = .ok m := by
  constructor
  · simp only [check_eq_ok_iff]
    constructor
    · rintro ⟨c, hvalid, -, -⟩
      exact hvalid
    · intro hvalid
      obtain ⟨t, ht, _⟩ := hvalid.interval
      exact ⟨⟨t, s.effective⟩, hvalid, ht, rfl⟩
  · intro c hc
    obtain ⟨hvalid, hinterval, hobservers⟩ := check_eq_ok_iff.1 hc
    have hnames : c.observers.map ObserverSpec.name = s.observers.keys := by
      rw [hobservers, keys_effective]
    refine ⟨hnames, ?_, fun base => ?_, ?_⟩
    · rw [hnames]
      exact Std.TreeMap.ordered_keys.imp compare_lt_iff_lt.1
    · refine ObserverSpec.exists_observers? (fun spec hspec => ?_) base 0
      exact hvalid.valid_of_mem_effective (hobservers ▸ hspec)
    · obtain ⟨t, ht, hne⟩ := hvalid.interval
      obtain rfl := Except.ok.inj (hinterval.symm.trans ht)
      have hzero : c.interval.isZero = false := beq_eq_false_iff_ne.2 hne
      exact ⟨⟨c.interval, []⟩, by rw [Monitor.make, hzero]; rfl⟩

def mixed : Settings where
  monitor := ⟨" 2M "⟩
  defaults := ⟨["**/*.rs"], ["**/target"], .insensitive, true⟩
  observers := (Std.TreeMap.empty.insert "sources"
    ⟨"src", some ["**/*.toml"], none, true, false, some .sensitive, none⟩).insert "notes"
    ⟨"/notes", none, some [], false, false, none, some false⟩

theorem check_mixed : mixed.check = .ok ⟨⟨120000000000⟩,
    [⟨"notes", ⟨"/notes"⟩, ["**/*.rs"], [], .insensitive, false⟩,
      ⟨"sources", ⟨"src"⟩, ["**/*.toml", "**/*.rs"], ["**/target"], .sensitive, true⟩]⟩ := by
  decide +kernel

theorem valid_iff_and_builds_mixed :
    ∃ c, mixed.check = .ok c ∧ c.observers.map ObserverSpec.name = ["notes", "sources"] ∧
      c.interval = ⟨120000000000⟩ ∧
      (∃ os, c.buildObservers ⟨"/base"⟩ = .ok os ∧
        List.Forall₂ (fun spec o => spec.Yields ⟨"/base"⟩ o) c.observers os) ∧
      ∃ m, Monitor.make c.interval = .ok m := by
  obtain ⟨-, -, hbuilds, hmonitor⟩ := (valid_iff_and_builds mixed).2 _ check_mixed
  exact ⟨_, check_mixed, rfl, rfl, hbuilds _, hmonitor⟩

end Settings

end TreeWatch
