import Mathlib
import TreeWatch.Proofs.Snapshot.Arrange
import TreeWatch.Proofs.Store.Names

/-!
# The shape of snapshots

In a snapshot each directory holds the entries of distinct names in it, in strictly increasing
order (`IsSnapshot`). A capture comes to such a tree whenever the listings that it is given are
those of directories, whatever else is answered and whether or not the answers change on the way
(`capture_spec`). What is true of the surroundings and kept by every question is kept by the
capture.
-/

set_option mvcgen.warning false

namespace TreeWatch

open Std.Do

namespace EntryOrder

variable {o : EntryOrder}

theorem everywhere_arranged_arrange [Std.TransCmp o.order] {dir : Path} {listing : List Path}
    {es : List Entry} (hlisting : IsListing dir listing) (hes : (es.map Entry.path).Sublist listing)
    (hall : ∀ e ∈ es, e.present = true ∧ e.Everywhere (Entry.Arranged o)) :
    (Entry.directory dir .epoch (o.arrange es)).Everywhere (Entry.Arranged o) := by
  obtain ⟨names, hnodup, hnames, rfl⟩ := hlisting
  have hsub := subperm_arrange o es
  have hpaths : (names.map dir.child).Nodup :=
    hnodup.map_on fun a ha b hb hab => (Path.child_inj (hnames a ha) (hnames b hb)).1 hab
  refine Entry.everywhere_iff.2 ⟨⟨⟨?_, ?_, ?_⟩, pairwise_arrange es⟩, ?_⟩
  · exact fun e he => (hall e (hsub.subset he)).1
  · intro e he
    have hmem : e.path ∈ names.map dir.child :=
      hes.subset (List.mem_map_of_mem (hsub.subset he))
    obtain ⟨n, hn, hpath⟩ := List.mem_map.1 hmem
    exact ⟨n, hnames n hn, hpath.symm⟩
  · obtain ⟨l, hperm, hl⟩ := hsub
    exact (hperm.map Entry.path).nodup_iff.1 ((hpaths.sublist hes).sublist (hl.map Entry.path))
  · exact fun e he => (hall e (hsub.subset he)).2

end EntryOrder

/-- What a file system gives for a directory are always paths of distinct names in it. -/
def FileSystem.ListsNames {σ : Type} (files : FileSystem (StateM σ)) : Prop :=
  ∀ dir w l, ((files.list dir).run w).1 = .ok l → IsListing dir l

namespace Camera

variable {m : Type → Type} {ps : PostShape} [Monad m] [WPMonad m ps]

/-- What holds of the surroundings is kept by every question and every note, and what is given
for a directory is a listing of it. -/
structure Keeps (c : Camera m) (I : Assertion ps) : Prop where
  metadata : ∀ p, ⦃I⦄ c.files.metadata p ⦃⇓ _ => I⦄
  linkMetadata : ∀ p, ⦃I⦄ c.files.linkMetadata p ⦃⇓ _ => I⦄
  list : ∀ p, ⦃I⦄ c.files.list p ⦃⇓ r => spred(I ∧ ⌜∀ l, r = .ok l → IsListing p l⌝)⦄
  note : ∀ r, ⦃I⦄ c.note r ⦃⇓ _ => I⦄

theorem entails_and_pure {I : Assertion ps} {φ : Prop} (h : φ) : I ⊢ₛ spred(I ∧ ⌜φ⌝) :=
  SPred.and_intro .rfl (SPred.pure_intro h)

variable {c : Camera m} {I : Assertion ps} {into : Path → m (List Entry)}

theorem look_spec (h : c.Keeps I)
    (hinto : ∀ p, ⦃I⦄ into p ⦃⇓ es => spred(I ∧
      ⌜(Entry.directory p .epoch es).Everywhere (Entry.Arranged c.order)⌝)⦄) (path : Path) :
    ⦃I⦄ c.look into path ⦃⇓ r => spred(I ∧
      ⌜∀ e, r = some e → e.path = path ∧ e.present = true ∧
        e.Everywhere (Entry.Arranged c.order)⌝)⦄ := by
  have hmetadata := h.linkMetadata path
  have hnote := h.note
  have hempty : (Entry.directory path .epoch []).Everywhere (Entry.Arranged c.order) :=
    Entry.everywhere_arranged_of_children_eq_nil _ rfl
  have hfound : ∀ (a : Attributes) (es : List Entry),
      (Entry.directory path .epoch es).Everywhere (Entry.Arranged c.order) →
      ∀ e, some (Entry.ofAttributes path a es) = some e →
        e.path = path ∧ e.present = true ∧ e.Everywhere (Entry.Arranged c.order) := by
    rintro a es hes e ⟨rfl⟩
    have hsnapshot := Entry.isSnapshot_ofAttributes hes a
    exact ⟨hsnapshot.path_eq, Entry.present_ofAttributes path a es, hsnapshot.arranged⟩
  mvcgen [look, hmetadata, hnote, hinto]
  case vc1 => exact entails_and_pure (by simp)
  case vc2 hes => exact entails_and_pure (hfound _ _ hes)
  case vc3 => exact entails_and_pure (hfound _ _ hempty)
  case vc4 => exact entails_and_pure (by simp)

theorem lookAll_spec (h : c.Keeps I)
    (hinto : ∀ p, ⦃I⦄ into p ⦃⇓ es => spred(I ∧
      ⌜(Entry.directory p .epoch es).Everywhere (Entry.Arranged c.order)⌝)⦄)
    (paths : List Path) :
    ⦃I⦄ c.lookAll into paths ⦃⇓ es => spred(I ∧ ⌜(es.map Entry.path).Sublist paths ∧
      ∀ e ∈ es, e.present = true ∧ e.Everywhere (Entry.Arranged c.order)⌝)⦄ := by
  have hlook := look_spec h hinto
  induction paths with
  | nil =>
      mvcgen [lookAll]
      exact entails_and_pure (by simp)
  | cons path paths ih =>
      mvcgen [lookAll, hlook, ih]
      case vc1 hfound es hes =>
        obtain ⟨rfl, hpresent, harranged⟩ := hfound _ rfl
        refine entails_and_pure ⟨?_, ?_⟩
        · rw [List.map_cons]
          exact hes.1.cons_cons _
        · exact List.forall_mem_cons.2 ⟨⟨hpresent, harranged⟩, hes.2⟩
      case vc2 =>
        exact SPred.pure_elim_r fun hes => entails_and_pure ⟨hes.1.cons path, hes.2⟩

theorem gather_spec [Std.TransCmp c.order.order] (h : c.Keeps I)
    (hinto : ∀ p, ⦃I⦄ into p ⦃⇓ es => spred(I ∧
      ⌜(Entry.directory p .epoch es).Everywhere (Entry.Arranged c.order)⌝)⦄)
    {dir : Path} {listing : List Path} (hlisting : IsListing dir listing) :
    ⦃I⦄ c.gather into listing ⦃⇓ es => spred(I ∧
      ⌜(Entry.directory dir .epoch es).Everywhere (Entry.Arranged c.order)⌝)⦄ := by
  have hlookAll := lookAll_spec h hinto
  mvcgen [gather, hlookAll]
  rename_i hes
  exact entails_and_pure (EntryOrder.everywhere_arranged_arrange hlisting hes.1 hes.2)

theorem below_spec [Std.TransCmp c.order.order] (h : c.Keeps I) (depth : ℕ) (dir : Path) :
    ⦃I⦄ c.below depth dir ⦃⇓ es => spred(I ∧
      ⌜(Entry.directory dir .epoch es).Everywhere (Entry.Arranged c.order)⌝)⦄ := by
  have hnote := h.note
  have hempty : ∀ p, (Entry.directory p .epoch []).Everywhere (Entry.Arranged c.order) :=
    fun p => Entry.everywhere_arranged_of_children_eq_nil _ rfl
  induction depth generalizing dir with
  | zero =>
      mvcgen [below, hnote]
      exact entails_and_pure (hempty dir)
  | succ depth ih =>
      have hlist := h.list dir
      mvcgen [below, hlist, hnote]
      case vc1 => exact entails_and_pure (hempty dir)
      case vc2 => exact SPred.pure_elim_r fun hlisting => gather_spec h ih (hlisting _ rfl)

theorem capture_spec [Std.TransCmp c.order.order] (h : c.Keeps I) (root : Path) :
    ⦃I⦄ c.capture root ⦃⇓ r => spred(I ∧ ⌜∀ e, r = .ok e → e.IsSnapshot c.order root⌝)⦄ := by
  have hmetadata := h.metadata root
  have hlist := h.list root
  have hnote := h.note
  have hbelow := below_spec h c.files.depthLimit
  have hgather {listing : List Path} (hlisting : IsListing root listing) :=
    gather_spec h hbelow hlisting
  mvcgen [capture, hmetadata, hlist, hnote, hgather]
  case vc1 =>
    refine entails_and_pure ?_
    rintro e ⟨rfl⟩
    exact ⟨rfl, Entry.everywhere_arranged_of_children_eq_nil _ rfl⟩
  case vc2 => exact entails_and_pure (by simp)
  case vc3 => exact entails_and_pure (by simp)
  case vc4 hlisting => exact hlisting _ rfl
  case vc5 hes =>
    refine entails_and_pure ?_
    rintro e ⟨rfl⟩
    exact Entry.isSnapshot_ofAttributes hes _
  case vc6 =>
    refine entails_and_pure ?_
    rintro e ⟨rfl⟩
    exact Entry.isSnapshot_ofAttributes
      (Entry.everywhere_arranged_of_children_eq_nil _ rfl) _

theorem keeps_fileSystem {s : Store} (hs : s.Named) {note : Journal m}
    (hnote : ∀ r, ⦃I⦄ note r ⦃⇓ _ => I⦄) (accepts : Path → Attributes → Bool)
    (o : EntryOrder) : (⟨s.fileSystem, note, accepts, o⟩ : Camera m).Keeps I where
  metadata _ := Triple.pure _ .rfl
  linkMetadata _ := Triple.pure _ .rfl
  list _ := Triple.pure _ (entails_and_pure fun _ => Store.isListing_of_list hs)
  note := hnote

/-- A capture comes to a snapshot whatever the file system does meanwhile, if it lists the names
in a directory. -/
theorem isSnapshot_of_run {σ : Type} {c : Camera (StateM σ)} (h : c.files.ListsNames)
    [Std.TransCmp c.order.order] {root : Path} {w : σ} {e : Entry}
    (hrun : ((c.capture root).run w).1 = .ok e) : e.IsSnapshot c.order root := by
  have hkeeps : c.Keeps ⌜True⌝ :=
    { metadata := fun _ _ _ => trivial
      linkMetadata := fun _ _ _ => trivial
      list := fun p w _ => ⟨trivial, h p w⟩
      note := fun _ _ _ => trivial }
  exact (capture_spec hkeeps root w trivial).2 e hrun

end Camera

namespace Store

def capture (s : Store) (accepts : Path → Attributes → Bool) (o : EntryOrder) (root : Path) :
    Except Error Entry :=
  Id.run (Camera.capture ⟨s.fileSystem, fun _ => pure (), accepts, o⟩ root)

theorem isSnapshot_of_capture {s : Store} (hs : s.Named) {accepts : Path → Attributes → Bool}
    {o : EntryOrder} [Std.TransCmp o.order] {root : Path} {e : Entry}
    (h : s.capture accepts o root = .ok e) : e.IsSnapshot o root := by
  have hkeeps : (⟨s.fileSystem, fun _ => pure (), accepts, o⟩ : Camera Id).Keeps ⌜True⌝ :=
    Camera.keeps_fileSystem hs (fun _ => Triple.pure _ .rfl) accepts o
  exact (Camera.capture_spec hkeeps root trivial).2 e h

end Store

end TreeWatch
