import Mathlib
import TreeWatch.Proofs.Snapshot.Arrange
import TreeWatch.Proofs.Snapshot.Recorded

/-!
# What vouches for a snapshot

Whatever a file system answers, and however the answers change meanwhile, each entry below the
root of a snapshot goes back to answers that were given while it was taken (`Entry.Attested`): its
directory was listed with it, it was looked at, and the filter has accepted what was seen
(`Camera.attested_of_capture`).
-/

set_option mvcgen.warning false

namespace TreeWatch

open Std.Do

theorem Chronicle.noting_spec {ε σ α : Type} {l : List ε} (entry : α → ε) (x : StateM σ α) :
    ⦃fun w => ⌜w.entries = l⌝⦄ Chronicle.noting entry x
    ⦃⇓ a w => ⌜w.entries = l ++ [entry a]⌝⦄ := by
  rintro w rfl
  exact rfl

inductive Answer where
  | metadata (path : Path) (result : Except IoError Attributes)
  | linkMetadata (path : Path) (result : Except IoError Attributes)
  | list (path : Path) (result : Except IoError (List Path))

/-- What a file system promises of links: what is said to be one is not said to be a directory. -/
def Attributes.Coherent (a : Attributes) : Prop := a.isLink = true → a.isDirectory = false

def FileSystem.recorded {σ : Type} (files : FileSystem (StateM σ)) :
    FileSystem (StateM (Chronicle Answer σ)) where
  metadata p := Chronicle.noting (.metadata p) (files.metadata p)
  linkMetadata p := Chronicle.noting (.linkMetadata p) (files.linkMetadata p)
  list p := Chronicle.noting (.list p) (files.list p)
  contents := files.contents
  depthLimit := files.depthLimit

def Camera.recorded {σ : Type} (c : Camera (StateM σ)) :
    Camera (StateM (Chronicle Answer σ)) where
  files := c.files.recorded
  note r := Chronicle.quietly (c.note r)
  accepts := c.accepts
  order := c.order

namespace Entry

variable {accepts : Path → Attributes → Bool} {o : EntryOrder} {log log' : List Answer}

/-- An entry is what was seen at its path and accepted. What is seen as a file or as a link has
nothing below it. -/
structure Seen (accepts : Path → Attributes → Bool) (log : List Answer) (x : Entry) : Prop where
  present : x.present = true
  exists_answer : ∃ a, .linkMetadata x.path (.ok a) ∈ log ∧ accepts x.path a = true ∧
    x.fact = a.fact ∧ (a.isDirectory = false ∨ a.isLink = true ∧ a.Coherent → x.children = [])

/-- An entry is a directory if there is anything below it, and all that is directly below it is
strictly increasing, was listed, and was seen. -/
structure Attested (accepts : Path → Attributes → Bool) (o : EntryOrder) (log : List Answer)
    (d : Entry) : Prop where
  sorted : d.children.Pairwise fun a b => o.order a b = .lt
  isDirectory : d.children ≠ [] → d.isDirectory = true
  listed : ∀ x ∈ d.children, ∃ listing, .list d.path (.ok listing) ∈ log ∧ x.path ∈ listing
  seen : ∀ x ∈ d.children, x.Seen accepts log

theorem Seen.mono {x : Entry} (h : x.Seen accepts log) (hlog : log ⊆ log') :
    x.Seen accepts log' := by
  obtain ⟨hpresent, a, ha, hrest⟩ := h
  exact ⟨hpresent, a, hlog ha, hrest⟩

theorem Attested.mono {d : Entry} (h : d.Attested accepts o log) (hlog : log ⊆ log') :
    d.Attested accepts o log' where
  sorted := h.sorted
  isDirectory := h.isDirectory
  listed x hx := by
    obtain ⟨listing, hlisting, hmem⟩ := h.listed x hx
    exact ⟨listing, hlog hlisting, hmem⟩
  seen x hx := (h.seen x hx).mono hlog

theorem attested_of_children_eq_nil {d : Entry} (h : d.children = []) :
    d.Attested accepts o log where
  sorted := by simp [h]
  isDirectory := by simp [h]
  listed := by simp [h]
  seen := by simp [h]

theorem everywhere_attested_of_children_eq_nil {d : Entry} (h : d.children = []) :
    d.Everywhere (Attested accepts o log) :=
  everywhere_iff.2 ⟨attested_of_children_eq_nil h, by simp [h]⟩

theorem everywhere_attested_ofAttributes {p : Path} {es : List Entry}
    (h : (directory p .epoch es).Everywhere (Attested accepts o log)) (a : Attributes) :
    (ofAttributes p a es).Everywhere (Attested accepts o log) := by
  rw [ofAttributes]
  split
  · obtain ⟨hd, hchildren⟩ := everywhere_iff.1 h
    exact everywhere_iff.2 ⟨⟨hd.sorted, fun _ => rfl, hd.listed, hd.seen⟩, hchildren⟩
  · exact everywhere_attested_of_children_eq_nil rfl

theorem seen_ofAttributes {p : Path} {a : Attributes} (es : List Entry)
    (hlog : .linkMetadata p (.ok a) ∈ log) (haccepts : accepts p a = true) :
    (ofAttributes p a es).Seen accepts log where
  present := present_ofAttributes p a es
  exists_answer := by
    refine ⟨a, by simpa using hlog, by simpa using haccepts, by simp, fun h => ?_⟩
    have hdir : a.isDirectory = false := h.elim id fun ⟨hlink, hcoherent⟩ => hcoherent hlink
    simp [children_ofAttributes, hdir]

theorem everywhere_attested_arrange [Std.TransCmp o.order] {dir : Path} {listing : List Path}
    {es : List Entry} (hlist : .list dir (.ok listing) ∈ log)
    (hes : ∀ e ∈ es, e.path ∈ listing ∧ e.Seen accepts log ∧
      e.Everywhere (Attested accepts o log)) :
    (directory dir .epoch (o.arrange es)).Everywhere (Attested accepts o log) := by
  have hmem {e : Entry} (he : e ∈ o.arrange es) : e ∈ es := (o.subperm_arrange es).subset he
  refine everywhere_iff.2 ⟨⟨EntryOrder.pairwise_arrange es, fun _ => rfl, ?_, ?_⟩, ?_⟩
  · exact fun e he => ⟨listing, hlist, (hes e (hmem he)).1⟩
  · exact fun e he => (hes e (hmem he)).2.1
  · exact fun e he => (hes e (hmem he)).2.2

end Entry

namespace Camera

variable {σ : Type} {c : Camera (StateM σ)} {l : List Answer}
  {into : Path → StateM (Chronicle Answer σ) (List Entry)}

theorem simulates_recorded (c : Camera (StateM σ)) :
    c.Simulates Chronicle.forgetting c.recorded where
  metadata _ _ l := ⟨l ++ [_], rfl⟩
  linkMetadata _ _ l := ⟨l ++ [_], rfl⟩
  list _ _ l := ⟨l ++ [_], rfl⟩
  note _ _ l := ⟨l, rfl⟩
  accepts_eq := rfl
  order_eq := rfl
  depthLimit_eq := rfl

theorem recorded_metadata_spec (c : Camera (StateM σ)) (p : Path) :
    ⦃fun w => ⌜w.entries = l⌝⦄ c.recorded.files.metadata p
    ⦃⇓ r w => ⌜w.entries = l ++ [.metadata p r]⌝⦄ :=
  Chronicle.noting_spec _ _

theorem recorded_linkMetadata_spec (c : Camera (StateM σ)) (p : Path) :
    ⦃fun w => ⌜w.entries = l⌝⦄ c.recorded.files.linkMetadata p
    ⦃⇓ r w => ⌜w.entries = l ++ [.linkMetadata p r]⌝⦄ :=
  Chronicle.noting_spec _ _

theorem recorded_list_spec (c : Camera (StateM σ)) (p : Path) :
    ⦃fun w => ⌜w.entries = l⌝⦄ c.recorded.files.list p
    ⦃⇓ r w => ⌜w.entries = l ++ [.list p r]⌝⦄ :=
  Chronicle.noting_spec _ _

theorem recorded_note_spec (c : Camera (StateM σ)) (r : Remark) :
    ⦃fun w => ⌜w.entries = l⌝⦄ c.recorded.note r ⦃⇓ _ w => ⌜w.entries = l⌝⦄ :=
  fun _ hw => hw

/-- What is done gives entries of a directory, attested by what has then been written down. -/
def Attests (c : Camera (StateM σ)) (dir : Path)
    (x : StateM (Chronicle Answer σ) (List Entry)) : Prop :=
  ∀ l, ⦃fun w => ⌜w.entries = l⌝⦄ x ⦃⇓ es w => ⌜l ⊆ w.entries ∧
    (Entry.directory dir .epoch es).Everywhere (Entry.Attested c.accepts c.order w.entries)⌝⦄

theorem recorded_look_spec (hinto : ∀ p, c.Attests p (into p)) (path : Path) :
    ⦃fun w => ⌜w.entries = l⌝⦄ c.recorded.look into path ⦃⇓ r w => ⌜l ⊆ w.entries ∧
      ∀ e, r = some e → e.path = path ∧ e.Seen c.accepts w.entries ∧
        e.Everywhere (Entry.Attested c.accepts c.order w.entries)⌝⦄ := by
  have hstat {l : List Answer} := recorded_linkMetadata_spec c path (l := l)
  have hnote (r : Remark) {l : List Answer} := recorded_note_spec c r (l := l)
  have hinto (p : Path) {l : List Answer} := hinto p l
  have hseen {l : List Answer} {a : Attributes} {es : List Entry}
      (ha : .linkMetadata path (.ok a) ∈ l) (haccepts : c.accepts path a = true)
      (hes : (Entry.directory path .epoch es).Everywhere
        (Entry.Attested c.accepts c.order l)) :
      ∀ e, some (Entry.ofAttributes path a es) = some e → e.path = path ∧
        e.Seen c.accepts l ∧ e.Everywhere (Entry.Attested c.accepts c.order l) := by
    rintro e ⟨rfl⟩
    exact ⟨Entry.path_ofAttributes path a es, Entry.seen_ofAttributes es ha haccepts,
      Entry.everywhere_attested_ofAttributes hes a⟩
  mvcgen [look, hstat, hnote, hinto]
  case vc1 h₀ _ _ _ _ h₁ _ _ h₂ => simp [h₂, h₁, h₀]
  case vc2 h₀ _ _ _ haccepts _ _ h₁ _ _ hes =>
    rw [h₁, h₀] at hes
    obtain ⟨hlog, hes⟩ := hes
    exact ⟨List.Subset.trans (List.subset_append_left ..) hlog, hseen (hlog (by simp)) haccepts hes⟩
  case vc3 h₀ _ _ _ haccepts _ _ h₁ =>
    refine ⟨by simp [h₁, h₀], hseen (by simp [h₁]) haccepts ?_⟩
    exact Entry.everywhere_attested_of_children_eq_nil rfl
  case vc4 h₀ _ _ _ _ _ h₁ => simp [h₁, h₀]

theorem recorded_lookAll_spec (hinto : ∀ p, c.Attests p (into p)) (paths : List Path) :
    ⦃fun w => ⌜w.entries = l⌝⦄ c.recorded.lookAll into paths ⦃⇓ es w => ⌜l ⊆ w.entries ∧
      ∀ e ∈ es, e.path ∈ paths ∧ e.Seen c.accepts w.entries ∧
        e.Everywhere (Entry.Attested c.accepts c.order w.entries)⌝⦄ := by
  have hlook (path : Path) {l : List Answer} := recorded_look_spec hinto path (l := l)
  induction paths generalizing l with
  | nil =>
      mvcgen [lookAll]
      simp_all
  | cons path paths ih =>
      mvcgen [lookAll, hlook, ih]
      case vc1 h₀ _ e _ _ h₁ es _ h₂ =>
        obtain ⟨hlog, hes⟩ := h₂
        obtain ⟨hpath, hseen, hall⟩ := h₁.2 e rfl
        refine ⟨List.Subset.trans (h₀ ▸ h₁.1) hlog, List.forall_mem_cons.2 ⟨?_, fun x hx => ?_⟩⟩
        · exact ⟨by simp [hpath], hseen.mono hlog, fun d hd => (hall d hd).mono hlog⟩
        · exact ⟨List.mem_cons_of_mem path (hes x hx).1, (hes x hx).2⟩
      case vc2 h₀ _ _ _ h₁ es _ =>
        intro hlog hes
        refine ⟨List.Subset.trans (h₀ ▸ h₁.1) hlog, fun x hx => ?_⟩
        exact ⟨List.mem_cons_of_mem path (hes x hx).1, (hes x hx).2⟩

theorem recorded_gather_spec [Std.TransCmp c.order.order] (hinto : ∀ p, c.Attests p (into p))
    (dir : Path) (listing : List Path) :
    ⦃fun w => ⌜l ⊆ w.entries ∧ .list dir (.ok listing) ∈ w.entries⌝⦄
    c.recorded.gather into listing
    ⦃⇓ es w => ⌜l ⊆ w.entries ∧ (Entry.directory dir .epoch es).Everywhere
      (Entry.Attested c.accepts c.order w.entries)⌝⦄ := by
  have hlookAll {l : List Answer} := recorded_lookAll_spec hinto listing (l := l)
  mvcgen [gather, hlookAll]
  case vc1 h₀ _ _ h₁ =>
    exact ⟨List.Subset.trans h₀.1 h₁.1, Entry.everywhere_attested_arrange (h₁.1 h₀.2) h₁.2⟩

theorem attests_below (c : Camera (StateM σ)) [Std.TransCmp c.order.order] (depth : ℕ)
    (dir : Path) : c.Attests dir (c.recorded.below depth dir) := by
  have hnote (r : Remark) {l : List Answer} := recorded_note_spec c r (l := l)
  induction depth generalizing dir with
  | zero =>
      intro l
      mvcgen [below, hnote]
      case vc1 h₀ _ _ h₁ =>
        exact ⟨by simp [h₁, h₀], Entry.everywhere_attested_of_children_eq_nil rfl⟩
  | succ depth ih =>
      intro l
      have hlist {l : List Answer} := recorded_list_spec c dir (l := l)
      have hgather (listing : List Path) {l : List Answer} :=
        recorded_gather_spec (l := l) ih dir listing
      mvcgen [below, hlist, hnote, hgather]
      case vc1 h₀ _ _ _ _ h₁ _ _ h₂ =>
        exact ⟨by simp [h₂, h₁, h₀], Entry.everywhere_attested_of_children_eq_nil rfl⟩
      case vc2 h₀ _ _ _ _ h₁ => simp [h₁, h₀]

theorem recorded_capture_spec [Std.TransCmp c.order.order] (root : Path) :
    ⦃fun w => ⌜w.entries = l⌝⦄ c.recorded.capture root ⦃⇓ r w => ⌜∀ e, r = .ok e →
      e.path = root ∧ e.Everywhere (Entry.Attested c.accepts c.order w.entries)⌝⦄ := by
  have hnote (r : Remark) {l : List Answer} := recorded_note_spec c r (l := l)
  have hmetadata {l : List Answer} := recorded_metadata_spec c root (l := l)
  have hlist {l : List Answer} := recorded_list_spec c root (l := l)
  have hgather (listing : List Path) :=
    recorded_gather_spec (l := []) (c.attests_below c.recorded.files.depthLimit) root listing
  mvcgen [capture, hmetadata, hnote, hlist, hgather]
  case vc1 =>
    rintro e ⟨rfl⟩
    exact ⟨rfl, Entry.everywhere_attested_of_children_eq_nil rfl⟩
  case vc2 => simp
  case vc3 => simp
  case vc4 h₁ => simp [h₁]
  case vc5 hes =>
    rintro e ⟨rfl⟩
    exact ⟨Entry.path_ofAttributes .., Entry.everywhere_attested_ofAttributes hes.2 _⟩
  case vc6 =>
    rintro e ⟨rfl⟩
    exact ⟨Entry.path_ofAttributes .., Entry.everywhere_attested_ofAttributes
      (Entry.everywhere_attested_of_children_eq_nil rfl) _⟩

theorem attested_of_run_recorded [Std.TransCmp c.order.order] {root : Path}
    {w w' : Chronicle Answer σ} {e : Entry} (h : (c.recorded.capture root).run w = (.ok e, w')) :
    e.path = root ∧ e.Everywhere (Entry.Attested c.accepts c.order w'.entries) := by
  have hspec : ∀ e, ((c.recorded.capture root).run w).1 = .ok e → e.path = root ∧
      e.Everywhere (Entry.Attested c.accepts c.order
        ((c.recorded.capture root).run w).2.entries) := recorded_capture_spec root w rfl
  rw [h] at hspec
  exact hspec e rfl

/-- Whatever is answered meanwhile, each entry below the root of a snapshot goes back to answers
that were given while it was taken. -/
theorem attested_of_capture {files : FileSystem (StateM σ)} {note : Journal (StateM σ)}
    {accepts : Path → Attributes → Bool} {k : Comparator} {root : Path} {w w' : σ} {e : Entry}
    (h : (Camera.capture ⟨files, note, accepts, k.toEntryOrder⟩ root).run w = (.ok e, w')) :
    ∃ log, ((Camera.recorded ⟨files, note, accepts, k.toEntryOrder⟩).capture root).run ⟨w, []⟩
        = (.ok e, ⟨w', log⟩) ∧
      e.path = root ∧ (e.present = false → e.children = []) ∧
      e.Everywhere (Entry.Attested accepts k.toEntryOrder log) := by
  let c : Camera (StateM σ) := ⟨files, note, accepts, k.toEntryOrder⟩
  have : Std.TransCmp c.order.order := k.transCmp_order
  obtain ⟨log, hlog⟩ := c.simulates_recorded.capture root w []
  rw [h] at hlog
  obtain ⟨hpath, hall⟩ := attested_of_run_recorded hlog
  refine ⟨log, hlog, hpath, fun habsent => ?_, hall⟩
  cases e with
  | missing p => rfl
  | file p t n => simp [Entry.present] at habsent
  | directory p t es => simp [Entry.present] at habsent

def growing : FileSystem (StateM ℕ) where
  metadata _ := return .ok (.directory .epoch)
  linkMetadata p := fun n => (if p = ⟨"/r/gone"⟩ then .error ⟨.notFound, "gone"⟩
    else if p = ⟨"/r/link"⟩ then .ok (.link .epoch) else .ok (.file (.ofNat n) .epoch), n + 1)
  list _ := fun n => (.ok [⟨"/r/a"⟩, ⟨"/r/gone"⟩, ⟨"/r/link"⟩], n + 1)
  contents _ := none
  depthLimit := 1

def grown : Entry :=
  .directory ⟨"/r"⟩ .epoch [.file ⟨"/r/link"⟩ .epoch 0, .file ⟨"/r/a"⟩ .epoch 1]

theorem attested_of_capture_growing :
    (Camera.capture ⟨growing, fun _ => pure (), fun _ _ => true,
      Comparator.size.toEntryOrder⟩ ⟨"/r"⟩).run 0 = (.ok grown, 4) ∧
    ∃ log, ((Camera.recorded ⟨growing, fun _ => pure (), fun _ _ => true,
        Comparator.size.toEntryOrder⟩).capture ⟨"/r"⟩).run ⟨0, []⟩ = (.ok grown, ⟨4, log⟩) ∧
      grown.path = ⟨"/r"⟩ ∧ (grown.present = false → grown.children = []) ∧
      grown.Everywhere (Entry.Attested (fun _ _ => true) Comparator.size.toEntryOrder log) := by
  have hrun : (Camera.capture ⟨growing, fun _ => pure (), fun _ _ => true,
      Comparator.size.toEntryOrder⟩ ⟨"/r"⟩).run 0 = (.ok grown, 4) := by cbv
  exact ⟨hrun, attested_of_capture hrun⟩

end Camera

end TreeWatch
