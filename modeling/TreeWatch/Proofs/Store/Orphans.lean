import TreeWatch.Proofs.Store.Lineage

/-!
# Orphans of a stored tree

What was added to a tree and not removed is stored, but if it lies below a file or a link, no
directory lists it and it is not come upon from the root on (`Store.lineage_ofChanges`). A change
leaves a tree without orphans as it should be just if nothing but directories is on the way to what
it adds and no file or link takes the place of something that has something below
(`Store.Sound.complete_apply_iff`, `Store.complete_ofChanges`).
-/

namespace TreeWatch

def StoreChange.added? : StoreChange → Option Path
  | .addDirectory p _ | .addFile p _ _ | .addLink p _ _ => some p
  | _ => none

instance (p : Path) : Decidable p.Plain :=
  decidable_of_iff (p.isAbsolute = true ∧ .parent ∉ p.components)
    ⟨fun ⟨h, h'⟩ => ⟨h, h'⟩, fun ⟨h, h'⟩ => ⟨h, h'⟩⟩

instance (c : StoreChange) : Decidable c.Builds :=
  match c with
  | .addDirectory p _ | .addFile p _ _ | .addLink p _ _ | .setModified p _ | .remove p =>
    inferInstanceAs (Decidable p.Plain)
  | .failListing _ | .failMetadata _ | .heal _ => inferInstanceAs (Decidable False)

/-- One of the changes adds something at a path, and none of those after it removes this path or
one above it. -/
def Stands (changes : List StoreChange) (p : Path) : Prop :=
  ∃ before c after, changes = before ++ c :: after ∧ c.added? = some p ∧
    ∀ r, .remove r ∈ after → p.isWithin r = false

namespace Store

variable {s t : Store} {p q dir : Place}

/-! ## What was added and not removed -/

theorem isSome_find?_linkToParent (p : Place) (h : (s.find? q).isSome = true) :
    ((s.linkToParent p).find? q).isSome = true := by
  fun_cases Store.linkToParent s p with
  | case1 c d dir =>
      rw [isSome_find?_enter]
      exact isSome_find?_ensureDirectory h
  | case2 => exact h

theorem isSome_find?_apply_added {c : StoreChange} {path : Path} (h : c.added? = some path) :
    ((s.apply c).find? path.place).isSome = true := by
  cases c with
  | addDirectory p modified =>
      obtain rfl := Option.some.inj h
      exact (isSome_find?_modify _ _ _ _).trans (isSome_find?_ensureDirectory_self s _)
  | addFile p length modified =>
      obtain rfl := Option.some.inj h
      exact isSome_find?_linkToParent _ (isSome_find?_put_self s _ _)
  | addLink p target modified =>
      obtain rfl := Option.some.inj h
      exact isSome_find?_linkToParent _ (isSome_find?_put_self s _ _)
  | setModified | remove | failListing | failMetadata | heal => cases h

/-- Only removing a path, or one above it, takes away what is stored there. -/
theorem isSome_find?_apply {c : StoreChange} {path : Path}
    (h : (s.find? path.place).isSome = true)
    (hc : ∀ r, c = .remove r → path.isWithin r = false) :
    ((s.apply c).find? path.place).isSome = true := by
  cases c with
  | addDirectory p modified =>
      exact (isSome_find?_modify _ _ _ _).trans (isSome_find?_ensureDirectory h)
  | addFile p length modified => exact isSome_find?_linkToParent _ (isSome_find?_put h)
  | addLink p target modified => exact isSome_find?_linkToParent _ (isSome_find?_put h)
  | setModified p modified => exact (isSome_find?_modify _ _ _ _).trans h
  | remove r =>
      exact (isSome_find?_remove ((isSuffixOf_place r path).trans (hc r rfl))).trans h
  | failListing | failMetadata | heal => exact h

theorem isSome_find?_ofChanges {changes : List StoreChange} {path : Path}
    (h : Stands changes path) : ((ofChanges changes).find? path.place).isSome = true := by
  obtain ⟨before, c, after, rfl, hc, hafter⟩ := h
  rw [ofChanges, List.foldl_append, List.foldl_cons]
  refine List.foldlRecOn (motive := fun t : Store => (t.find? path.place).isSome = true) after
    Store.apply (isSome_find?_apply_added hc) fun t ht c' hc' => ?_
  exact isSome_find?_apply ht fun r hr => hafter r (hr ▸ hc')

/-! ## Below what is no directory -/

/-- A path is stored, but no directory around it lists it once, and it is not come upon from the
root on. -/
structure Orphan (s : Store) (p : Path) : Prop where
  stored : ∃ a, s.linkMetadata p = .ok a
  unlisted : ∀ dir : Path, dir.IsAround p → ¬ s.ListsOnce dir p
  unreached : ¬ ∃ q, p.same q = true ∧ s.Reached q

theorem Sound.orphan_of_bars (h : s.Sound) {p dir : Path} {a : Attributes}
    (hp : s.linkMetadata p = .ok a) (haround : dir.IsAround p) (hbars : s.Bars dir) :
    s.Orphan p := by
  obtain ⟨⟨b, hb, hfile⟩, -⟩ := hbars
  obtain ⟨n, hn, rfl⟩ := h.linkMetadata_eq_ok_iff.1 hb
  obtain ⟨name, hname⟩ := haround
  refine ⟨⟨a, hp⟩, ?_, ?_⟩
  · rintro dir' ⟨name', hname'⟩ ⟨⟨b', hb', hdirectory⟩, -⟩
    obtain ⟨n', hn', rfl⟩ := h.linkMetadata_eq_ok_iff.1 hb'
    have hsame := List.append_inj_left' (hname.symm.trans hname') rfl
    have hplace : dir.place = dir'.place := by rw [Path.place, Path.place, hsame]
    rw [← hplace, hn] at hn'
    obtain rfl := Option.some.inj hn'
    rw [hfile] at hdirectory
    cases hdirectory
  · rw [h.exists_reached_iff hp, place_eq_cons_iff.2 hname, clear_name_iff]
    rintro ⟨hdirectory, -⟩
    rw [hdirectory n hn] at hfile
    cases hfile

/-- Whatever is added, dated and removed in a tree, at paths from the root on without dots,
something is stored around each path that is stored, other than the root, and if it is a directory,
it lists the path exactly once. All that was added and not removed is stored, and it is come upon
from the root on just if all that is stored above it are directories. -/
theorem lineage_ofChanges {changes : List StoreChange} (h : ∀ c ∈ changes, c.Builds) :
    (∀ p a, (ofChanges changes).linkMetadata p = .ok a → p.same ⟨"/"⟩ = false →
      (∃ dir : Path, dir.IsAround p) ∧ ∀ dir : Path, dir.IsAround p →
        (ofChanges changes).ListsOnce dir p ∨ (ofChanges changes).Bars dir) ∧
    (∀ p, Stands changes p → ∃ a, (ofChanges changes).linkMetadata p = .ok a) ∧
    ∀ p a, (ofChanges changes).linkMetadata p = .ok a →
      ((∃ q, p.same q = true ∧ (ofChanges changes).Reached q) ↔
        ∀ dir b, p.isWithin dir = true → dir.same p = false →
          (ofChanges changes).linkMetadata dir = .ok b → b.isDirectory = true) := by
  have hsound := sound_ofChanges h
  refine ⟨fun p a hp hroot => ⟨?_, fun dir haround => ?_⟩, fun p hp => ?_, fun p a hp => ?_⟩
  · exact hsound.exists_isAround hp hroot
  · exact hsound.listsOnce_or_bars hp haround
  · obtain ⟨n, hn⟩ := Option.isSome_iff_exists.1 (isSome_find?_ofChanges hp)
    exact ⟨_, hsound.linkMetadata_eq_ok_iff.2 ⟨n, hn, rfl⟩⟩
  · rw [hsound.exists_reached_iff hp, hsound.clear_place_iff]

def stacked : List StoreChange :=
  [.addFile ⟨"/a"⟩ 1 .epoch, .addFile ⟨"/a/b"⟩ 1 .epoch, .addFile ⟨"/c/d"⟩ 1 .epoch,
    .addFile ⟨"/c"⟩ 1 .epoch, .addLink ⟨"/e/l"⟩ ⟨"/a"⟩ .epoch]

theorem lineage_ofChanges_stacked :
    (∀ c ∈ stacked, c.Builds) ∧ (∃ a, (ofChanges stacked).linkMetadata ⟨"/c/d"⟩ = .ok a) ∧
      (ofChanges stacked).Bars ⟨"/c"⟩ ∧ (ofChanges stacked).ListsOnce ⟨"/e"⟩ ⟨"/e/l"⟩ ∧
      ¬ ∃ q, Path.same ⟨"/a/b"⟩ q = true ∧ (ofChanges stacked).Reached q := by
  have hbuilds : ∀ c ∈ stacked, c.Builds := by decide +kernel
  obtain ⟨hlisted, hstands, hreached⟩ := lineage_ofChanges hbuilds
  have hfile : (ofChanges stacked).linkMetadata ⟨"/c"⟩ = .ok (.file 1 .epoch) := by decide +kernel
  have hdir : (ofChanges stacked).linkMetadata ⟨"/e"⟩ = .ok (.directory .epoch) := by
    decide +kernel
  have hd : Stands stacked ⟨"/c/d"⟩ :=
    ⟨stacked.take 2, .addFile ⟨"/c/d"⟩ 1 .epoch, stacked.drop 3, rfl, rfl, by simp [stacked]⟩
  obtain ⟨a, ha⟩ := hstands _ hd
  refine ⟨hbuilds, ⟨a, ha⟩, ?_, ?_, ?_⟩
  · rcases (hlisted _ a ha (by decide)).2 ⟨"/c"⟩ ⟨"d", by decide⟩ with hlists | hbars
    · obtain ⟨⟨b, hb, hb'⟩, -⟩ := hlists
      obtain rfl := Except.ok.inj (hfile.symm.trans hb)
      cases hb'
    · exact hbars
  · have hl : (ofChanges stacked).linkMetadata ⟨"/e/l"⟩ = .ok (.link .epoch) := by decide +kernel
    rcases (hlisted _ _ hl (by decide)).2 ⟨"/e"⟩ ⟨"l", by decide⟩ with hlists | hbars
    · exact hlists
    · obtain ⟨⟨b, hb, hb'⟩, -⟩ := hbars
      obtain rfl := Except.ok.inj (hdir.symm.trans hb)
      cases hb'
  · have hb : (ofChanges stacked).linkMetadata ⟨"/a/b"⟩ = .ok (.file 1 .epoch) := by
      decide +kernel
    intro hq
    exact absurd ((hreached _ _ hb).1 hq ⟨"/a"⟩ (.file 1 .epoch) (by decide) (by decide)
      (by decide +kernel)) (by decide)

/-- A file that was added under a file is an orphan, and so is one that lay in a directory before a
file took its place. -/
theorem orphans_stacked :
    (∀ c ∈ stacked, c.Builds) ∧
    Stands stacked ⟨"/a/b"⟩ ∧ (ofChanges stacked).list ⟨"/a"⟩ = .error (notDirectory ⟨"/a"⟩) ∧
      (ofChanges stacked).Orphan ⟨"/a/b"⟩ ∧
    Stands stacked ⟨"/c/d"⟩ ∧ (ofChanges stacked).list ⟨"/c"⟩ = .error (notDirectory ⟨"/c"⟩) ∧
      (ofChanges stacked).Orphan ⟨"/c/d"⟩ := by
  have hbuilds : ∀ c ∈ stacked, c.Builds := by decide +kernel
  have hsound := sound_ofChanges hbuilds
  have ha : (ofChanges stacked).list ⟨"/a"⟩ = .error (notDirectory ⟨"/a"⟩) := by decide +kernel
  have hc : (ofChanges stacked).list ⟨"/c"⟩ = .error (notDirectory ⟨"/c"⟩) := by decide +kernel
  refine ⟨hbuilds, ?_, ha, ?_, ?_, hc, ?_⟩
  · exact ⟨stacked.take 1, .addFile ⟨"/a/b"⟩ 1 .epoch, stacked.drop 2, rfl, rfl,
      by simp [stacked]⟩
  · exact hsound.orphan_of_bars (a := .file 1 .epoch) (by decide +kernel) ⟨"b", by decide⟩
      ⟨⟨.file 1 .epoch, by decide +kernel, rfl⟩, ha⟩
  · exact ⟨stacked.take 2, .addFile ⟨"/c/d"⟩ 1 .epoch, stacked.drop 3, rfl, rfl,
      by simp [stacked]⟩
  · exact hsound.orphan_of_bars (a := .file 1 .epoch) (by decide +kernel) ⟨"d", by decide⟩
      ⟨⟨.file 1 .epoch, by decide +kernel, rfl⟩, hc⟩

/-! ## Changes that make no orphans -/

/-- All that is stored in a tree but the root is listed once by the directory around it, and all is
come upon from the root on. -/
structure Complete (s : Store) : Prop where
  listed : ∀ p a, s.linkMetadata p = .ok a → p.same ⟨"/"⟩ = false →
    ∃ dir : Path, dir.IsAround p ∧ s.ListsOnce dir p
  reached : ∀ p a, s.linkMetadata p = .ok a → ∃ q, p.same q = true ∧ s.Reached q

def AllClear (s : Store) : Prop :=
  ∀ path : Path, (s.find? path.place).isSome = true → s.Clear path.place

theorem Sound.complete_iff (h : s.Sound) : s.Complete ↔ s.AllClear := by
  constructor
  · intro hs path hpath
    obtain ⟨n, hn⟩ := Option.isSome_iff_exists.1 hpath
    have hfound := h.linkMetadata_eq_ok_iff.2 ⟨n, hn, rfl⟩
    exact (h.exists_reached_iff hfound).1 (hs.reached path _ hfound)
  · intro hs
    have hclear {p : Path} {a : Attributes} (hp : s.linkMetadata p = .ok a) : s.Clear p.place := by
      obtain ⟨n, hn, -⟩ := h.linkMetadata_eq_ok_iff.1 hp
      exact hs p (Option.isSome_of_eq_some hn)
    refine ⟨fun p a hp hroot => ?_, fun p a hp => (h.exists_reached_iff hp).2 (hclear hp)⟩
    obtain ⟨dir, haround⟩ := h.exists_isAround hp hroot
    rcases h.listsOnce_or_bars hp haround with hlists | hbars
    · exact ⟨dir, haround, hlists⟩
    · exact absurd ((h.exists_reached_iff hp).2 (hclear hp))
        (h.orphan_of_bars hp haround hbars).unreached

theorem Clear.of_suffix (h : s.Clear p) (hq : q <:+ p) : s.Clear q := by
  intro d n hd hne hn
  refine h d n (hd.trans hq) ?_ hn
  rintro rfl
  exact hne (hd.eq_of_length_le hq.length_le)

theorem GrowsTo.clear_iff (h : s.GrowsTo t p) (q : Place) : t.Clear q ↔ s.Clear q := by
  constructor
  · intro hclear d n hd hne hn
    obtain ⟨m, hm, hsame, _⟩ := h.stored d n hn
    exact hsame ▸ hclear d m hd hne hm
  · intro hclear d m hd hne hm
    rcases h.made d (Option.isSome_of_eq_some hm) with hold | hmade
    · obtain ⟨n, hn⟩ := Option.isSome_iff_exists.1 hold
      obtain ⟨m', hm', hsame, _⟩ := h.stored d n hn
      obtain rfl := Option.some.inj (hm.symm.trans hm')
      exact hsame ▸ hclear d n hd hne hn
    · obtain ⟨m', hm', hdirectory⟩ := hmade.exists_directory
      obtain rfl := Option.some.inj (hm.symm.trans hm')
      exact hdirectory

theorem GrowsTo.allClear_iff {path : Path} (h : s.GrowsTo t path.place)
    (hpath : (t.find? path.place).isSome = true) :
    t.AllClear ↔ s.AllClear ∧ s.Clear path.place := by
  constructor
  · intro hclear
    refine ⟨fun q hq => ?_, (h.clear_iff _).1 (hclear path hpath)⟩
    obtain ⟨n, hn⟩ := Option.isSome_iff_exists.1 hq
    obtain ⟨m, hm, -⟩ := h.stored _ n hn
    exact (h.clear_iff _).1 (hclear q (Option.isSome_of_eq_some hm))
  · rintro ⟨hclear, hway⟩ q hq
    rw [h.clear_iff]
    rcases h.made _ hq with hold | hmade
    · exact hclear q hold
    · exact hway.of_suffix hmade.suffix

/-- A file or a link can take a place if nothing is stored below it. -/
theorem allClear_put_iff {path : Path} {n : StoredNode} (h : s.AllClear)
    (hn : n.attributes.isDirectory = false) :
    (s.put path.place n).AllClear ∧ (s.put path.place n).Clear path.place ↔
      s.Clear path.place ∧ ∀ q : Path, (s.find? q.place).isSome = true →
        q.isWithin path = true → q.same path = true := by
  have hput (d : Place) := find?_put s path.place d n
  have hself : (s.put path.place n).Clear path.place ↔ s.Clear path.place := by
    refine forall₂_congr fun d m => forall₂_congr fun _ hne => ?_
    rw [hput, if_neg hne]
  rw [hself, and_comm]
  refine and_congr_right fun hway => ⟨?_, ?_⟩
  · -- what is stored below would have the file on its way
    intro hclear q hq hwithin
    by_contra hne
    rw [same_iff_place_eq] at hne
    rw [← isSuffixOf_place, List.isSuffixOf_iff_suffix] at hwithin
    have hq' : ((s.put path.place n).find? q.place).isSome = true := isSome_find?_put hq
    have hdirectory := hclear q hq' path.place n hwithin (Ne.symm hne) (by rw [hput, if_pos rfl])
    rw [hn] at hdirectory
    cases hdirectory
  · intro hbelow q hq d m hd hne hm
    rw [hput] at hq hm
    by_cases heq : d = path.place
    · subst heq
      rw [if_neg (Ne.symm hne)] at hq
      have hwithin : q.isWithin path = true := by
        rwa [← isSuffixOf_place, List.isSuffixOf_iff_suffix]
      exact absurd (same_iff_place_eq.1 (hbelow q hq hwithin)).symm hne
    · rw [if_neg heq] at hm
      split at hq
      · rename_i hplace
        rw [hplace] at hd hne
        exact hway d m hd hne hm
      · exact h q hq d m hd hne hm

theorem AllClear.remove (h : s.AllClear) (r : Path) : (s.remove r).AllClear := by
  have hleft {d : Place} {m : StoredNode} (hm : (s.remove r).find? d = some m) :
      ∃ n, s.find? d = some n ∧ m.attributes = n.attributes := by
    have hd := isSuffixOf_eq_false_of_remove (Option.isSome_of_eq_some hm)
    have hsame := map_attributes_find?_remove (s := s) hd
    rw [hm, Option.map_some, eq_comm, Option.map_eq_some_iff] at hsame
    obtain ⟨n, hn, hn'⟩ := hsame
    exact ⟨n, hn, hn'.symm⟩
  intro q hq d m hd hne hm
  obtain ⟨k, hk⟩ := Option.isSome_iff_exists.1 hq
  obtain ⟨k', hk', -⟩ := hleft hk
  obtain ⟨n, hn, hsame⟩ := hleft hm
  rw [hsame]
  exact h q (Option.isSome_of_eq_some hk') d n hd hne hn

end Store

/-- Only directories are on the way to what a change adds, and it puts no file or link over
anything that has something below. -/
def StoreChange.Fits (s : Store) : StoreChange → Prop
  | .addDirectory p _ => s.Clear p.place
  | .addFile p _ _ | .addLink p _ _ => s.Clear p.place ∧
    ∀ q : Path, (s.find? q.place).isSome = true → q.isWithin p = true → q.same p = true
  | _ => True

namespace Store

variable {s : Store} {c : StoreChange}

theorem allClear_apply_iff (h : s.AllClear) (hc : c.Builds) :
    (s.apply c).AllClear ↔ c.Fits s := by
  have hleaf {p : Path} {n : StoredNode} (hp : p.Plain) (hn : n.attributes.isDirectory = false) :
      ((s.put p.place n).linkToParent p.place).AllClear ↔ s.Clear p.place ∧
        ∀ q : Path, (s.find? q.place).isSome = true → q.isWithin p = true → q.same p = true := by
    have hgrows := (s.put p.place n).growsTo_linkToParent hp.isRooted
    rw [hgrows.allClear_iff (isSome_find?_linkToParent _ (isSome_find?_put_self s _ _)),
      allClear_put_iff h hn]
  cases c with
  | addDirectory p modified =>
      have hgrows := (growsTo_ensureDirectory s hc.isRooted).trans_grows
        (grows_setTime _ p.place modified) fun _ => isSome_find?_modify _ _ _ _
      have hsome := isSome_find?_apply_added (s := s) (c := .addDirectory p modified) rfl
      exact (hgrows.allClear_iff hsome).trans (and_iff_right h)
  | addFile p length modified => exact hleaf hc rfl
  | addLink p target modified => exact hleaf hc rfl
  | setModified p modified =>
      refine iff_of_true (fun q hq => ?_) trivial
      exact ((growsTo_setTime s p.place q.place modified).clear_iff _).2
        (h q ((isSome_find?_modify _ _ _ _).symm.trans hq))
  | remove p => exact iff_of_true (h.remove p) trivial
  | failListing | failMetadata | heal => cases hc

/-- A tree without orphans is left without orphans by just those changes that fit. -/
theorem Sound.complete_apply_iff (h : s.Sound) (hs : s.Complete) (hc : c.Builds) :
    (s.apply c).Complete ↔ c.Fits s := by
  rw [(h.apply hc).complete_iff, allClear_apply_iff (h.complete_iff.1 hs) hc]

theorem complete_ofChanges {changes : List StoreChange}
    (h : ∀ before c after, changes = before ++ c :: after →
      c.Builds ∧ c.Fits (ofChanges before)) : (ofChanges changes).Complete := by
  induction changes using List.reverseRecOn with
  | nil =>
      refine (sound_ofChanges (by simp)).complete_iff.2 fun path hpath => ?_
      simp [find?, ofChanges] at hpath
  | append_singleton changes c ih =>
      have hchanges : (ofChanges changes).Complete := by
        refine ih fun before c' after heq => ?_
        exact h before c' (after ++ [c]) (by simp [heq])
      have hsound : (ofChanges changes).Sound := by
        refine sound_ofChanges fun c' hc' => ?_
        obtain ⟨before, after, rfl⟩ := List.append_of_mem hc'
        exact (h before c' (after ++ [c]) (by simp)).1
      obtain ⟨hbuilds, hfits⟩ := h changes c [] rfl
      rw [ofChanges, List.foldl_append]
      exact (hsound.complete_apply_iff hchanges hbuilds).2 hfits

end Store

end TreeWatch
