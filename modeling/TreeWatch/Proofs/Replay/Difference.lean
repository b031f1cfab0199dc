import TreeWatch.Proofs.Diff.Exact
import TreeWatch.Proofs.Replay.Replica

/-!
# Applying a difference

The events of one entry can be applied by whoever knows its old version, lead to the new version
and leave alone what is elsewhere (`Carries`). The entries of a directory do not get into each
other's way (`exists_replays_flatMap`), so that from the old of two snapshots of a root their
difference leads to the new one (`exists_replays_diff`).
-/

namespace TreeWatch

def Under (dir k : List Component) : Prop := dir <+: k ∧ k ≠ dir

theorem under_of_append_isPrefix {dir k : List Component} {c : Component}
    (h : dir ++ [c] <+: k) : Under dir k := by
  refine ⟨(List.prefix_append dir [c]).trans h, ?_⟩
  rintro rfl
  simpa using h.length_le

namespace Replica

variable {root place dir : List Component} {old new mid old' new' : Replica} {vs ws : List Event}

/-- Events that can be applied if at and below a place all is as in one replica, lead to what is
there in another, and change nothing anywhere else. -/
def Carries (root place : List Component) (vs : List Event) (old new : Replica) : Prop :=
  ∀ m : Replica, m.HasRoom root place → (∀ k, place <+: k → m k = old k) →
    ∃ m', Replays root m vs m' ∧ (∀ k, place <+: k → m' k = new k) ∧
      ∀ k, ¬ place <+: k → m' k = m k

theorem HasRoom.of_eq {m m' : Replica} (h : m.HasRoom root place)
    (heq : ∀ k, ¬ place <+: k → m' k = m k) : m'.HasRoom root place := by
  rcases h with hroot | ⟨dir, c, rfl, f, hf, hdir⟩
  · exact .inl hroot
  · refine .inr ⟨dir, c, rfl, f, ?_, hdir⟩
    rw [heq dir fun hprefix => (under_of_append_isPrefix hprefix).2 rfl, hf]

namespace Carries

theorem congr (h : Carries root place vs old new) (hold : ∀ k, place <+: k → old' k = old k)
    (hnew : ∀ k, place <+: k → new' k = new k) : Carries root place vs old' new' := by
  intro m hroom hm
  obtain ⟨m', hs, hin, hout⟩ := h m hroom fun k hk => (hm k hk).trans (hold k hk)
  exact ⟨m', hs, fun k hk => (hin k hk).trans (hnew k hk).symm, hout⟩

theorem append (h : Carries root place vs old mid) (h' : Carries root place ws mid new) :
    Carries root place (vs ++ ws) old new := by
  intro m hroom hm
  obtain ⟨m₁, hs₁, hin₁, hout₁⟩ := h m hroom hm
  obtain ⟨m₂, hs₂, hin₂, hout₂⟩ := h' m₁ (hroom.of_eq hout₁) hin₁
  exact ⟨m₂, hs₁.append hs₂, hin₂, fun k hk => (hout₂ k hk).trans (hout₁ k hk)⟩

end Carries

/-- Events at places of which none lies at or below another carry on side by side. -/
theorem exists_replays_flatMap {α : Type} {site : α → List Component} {events : α → List Event}
    {xs : List α} (hplace : ∀ x ∈ xs, ∃ c, site x = dir ++ [c])
    (hapart : xs.Pairwise fun x y => ∀ k, site x <+: k → ¬ site y <+: k)
    (h : ∀ x ∈ xs, Carries root (site x) (events x) old new) {m : Replica}
    (hdir : ∀ x ∈ xs, m.Holds dir true) (hm : ∀ x ∈ xs, ∀ k, site x <+: k → m k = old k) :
    ∃ m', Replays root m (xs.flatMap events) m' ∧
      (∀ x ∈ xs, ∀ k, site x <+: k → m' k = new k) ∧
      ∀ k, (∀ x ∈ xs, ¬ site x <+: k) → m' k = m k := by
  induction xs generalizing m with
  | nil => exact ⟨m, .nil m, by simp, fun _ _ => rfl⟩
  | cons x xs ih =>
      obtain ⟨hx, hxs⟩ := List.pairwise_cons.1 hapart
      obtain ⟨c, hc⟩ := hplace x List.mem_cons_self
      have hroom : m.HasRoom root (site x) := .inr ⟨dir, c, hc, hdir x List.mem_cons_self⟩
      obtain ⟨m₁, hs₁, hin₁, hout₁⟩ :=
        h x List.mem_cons_self m hroom (hm x List.mem_cons_self)
      have hdir₁ : ∀ y ∈ xs, m₁.Holds dir true := by
        intro y hy
        obtain ⟨f, hf, htrue⟩ := hdir y (List.mem_cons_of_mem x hy)
        refine ⟨f, (hout₁ dir fun hprefix => ?_).trans hf, htrue⟩
        rw [hc] at hprefix
        exact (under_of_append_isPrefix hprefix).2 rfl
      have hm₁ : ∀ y ∈ xs, ∀ k, site y <+: k → m₁ k = old k := fun y hy k hk =>
        (hout₁ k fun hxk => hx y hy k hxk hk).trans (hm y (List.mem_cons_of_mem x hy) k hk)
      obtain ⟨m₂, hs₂, hin₂, hout₂⟩ := ih (fun y hy => hplace y (List.mem_cons_of_mem x hy)) hxs
        (fun y hy => h y (List.mem_cons_of_mem x hy)) hdir₁ hm₁
      refine ⟨m₂, hs₁.append hs₂, ?_, ?_⟩
      · intro y hy k hk
        rcases List.mem_cons.1 hy with rfl | hy
        · rw [hout₂ k fun z hz => hx z hz k hk, hin₁ k hk]
        · exact hin₂ y hy k hk
      · intro k hk
        rw [hout₂ k fun y hy => hk y (List.mem_cons_of_mem x hy), hout₁ k (hk x List.mem_cons_self)]

theorem exists_replays_under {α : Type} {site : α → List Component} {events : α → List Event}
    {xs : List α} (hplace : ∀ x ∈ xs, ∃ c, site x = dir ++ [c])
    (hapart : xs.Pairwise fun x y => ∀ k, site x <+: k → ¬ site y <+: k)
    (h : ∀ x ∈ xs, Carries root (site x) (events x) old new)
    (helse : ∀ k, Under dir k → (∀ x ∈ xs, ¬ site x <+: k) → old k = new k) {m : Replica}
    (hdir : ∀ x ∈ xs, m.Holds dir true) (hm : ∀ k, Under dir k → m k = old k) :
    ∃ m', Replays root m (xs.flatMap events) m' ∧ (∀ k, Under dir k → m' k = new k) ∧
      ∀ k, ¬ Under dir k → m' k = m k := by
  have hunder : ∀ x ∈ xs, ∀ k, site x <+: k → Under dir k := by
    intro x hx k hk
    obtain ⟨c, hc⟩ := hplace x hx
    exact under_of_append_isPrefix (hc ▸ hk)
  obtain ⟨m', hs, hin, hout⟩ := exists_replays_flatMap hplace hapart h hdir
    fun x hx k hk => hm k (hunder x hx k hk)
  refine ⟨m', hs, fun k hk => ?_, fun k hk => hout k fun x hx hxk => hk (hunder x hx k hxk)⟩
  by_cases hsome : ∃ x ∈ xs, site x <+: k
  · obtain ⟨x, hx, hxk⟩ := hsome
    exact hin x hx k hxk
  · have hnone : ∀ x ∈ xs, ¬ site x <+: k := fun x hx hxk => hsome ⟨x, hx, hxk⟩
    rw [hout k hnone, hm k hk, helse k hk hnone]

/-! ## What is known of a tree -/

variable {e c : Entry} {k : List Component}

theorem ofEntries_preorder_self (h : e.Everywhere Entry.Listed) :
    ofEntries e.preorder e.path.components = some e.fact :=
  ofEntries_of_mem (Entry.nodup_components_preorder h) e.mem_preorder_self

theorem ofEntries_preorder_of_mem_children (h : e.Everywhere Entry.Listed)
    (hc : c ∈ e.children) (hk : c.path.components <+: k) :
    ofEntries e.preorder k = ofEntries c.preorder k := by
  refine ofEntries_congr (Entry.nodup_components_preorder h)
    (Entry.nodup_components_preorder (h.child hc)) fun x hx => ⟨fun hmem => ?_, fun hmem => ?_⟩
  · exact Entry.mem_preorder_of_isPrefix h hc hmem (hx ▸ hk)
  · exact Entry.mem_preorder_of_mem_children hc hmem

theorem ofEntries_preorder_of_not_isPrefix (h : e.Everywhere Entry.Listed)
    (hk : ¬ e.path.components <+: k) : ofEntries e.preorder k = none := by
  refine ofEntries_eq_none_iff.2 fun x hx heq => hk ?_
  rw [← heq]
  exact Entry.components_isPrefix_of_mem_preorder h hx

theorem ofEntries_preorder_of_under (h : e.Everywhere Entry.Listed)
    (hk : Under e.path.components k) (hnone : ∀ c ∈ e.children, ¬ c.path.components <+: k) :
    ofEntries e.preorder k = none := by
  refine ofEntries_eq_none_iff.2 fun x hx heq => ?_
  rcases Entry.mem_preorder_iff.1 hx with rfl | ⟨c, hc, hxc⟩
  · exact hk.2 heq.symm
  · refine hnone c hc ?_
    rw [← heq]
    exact Entry.components_isPrefix_of_mem_preorder (h.child hc) hxc

theorem pairwise_apart_children (h : e.Listed) : e.children.Pairwise fun a b =>
    ∀ k, a.path.components <+: k → ¬ b.path.components <+: k :=
  h.nodup.of_map.imp_of_mem fun ha hb hab _ hka hkb => hab (h.eq_of_isPrefix ha hb hka hkb)

theorem exists_components_of_mem_children (h : e.Listed) (hc : c ∈ e.children) :
    ∃ d, c.path.components = e.path.components ++ [d] := by
  obtain ⟨n, _, _, hcomponents⟩ := h.exists_components_eq hc
  exact ⟨_, hcomponents⟩

/-! ## One entry -/

theorem carries_creations (root : List Component) (h : e.Everywhere Entry.Listed) :
    Carries root e.path.components (Event.creations e) (ofEntries [])
      (ofEntries e.preorder) := by
  induction e using Entry.induction_children with
  | step e ih =>
      intro m hroom hm
      have hlisted := h e e.mem_preorder_self
      have hallows : m.Allows root ⟨.created e, e⟩ :=
        .creation (Alteration.isCreation_created e) (hm _ (List.prefix_refl _)) hroom
      have hself : m.apply ⟨.created e, e⟩ e.path.components = some e.fact := by
        simp [Replica.apply, Entry.fact]
      have hrest : ∀ k, k ≠ e.path.components → m.apply ⟨.created e, e⟩ k = m k :=
        fun k hk => apply_of_ne m ⟨.created e, e⟩ hk
      obtain ⟨m', hs, hin, hout⟩ := exists_replays_under (m := m.apply ⟨.created e, e⟩)
        (fun c hc => exists_components_of_mem_children hlisted hc)
        (pairwise_apart_children hlisted)
        (fun c hc => (ih c hc (h.child hc)).congr (fun _ _ => rfl) fun k hk =>
          ofEntries_preorder_of_mem_children h hc hk)
        (fun k hk hnone => (ofEntries_preorder_of_under h hk hnone).symm)
        (fun c hc => ⟨_, hself, Entry.isDirectory_of_mem_children hc⟩)
        fun k hk => (hrest k hk.2).trans (hm k hk.1)
      rw [Event.creations_eq_cons]
      refine ⟨m', .cons hallows hs, fun k hk => ?_, fun k hk => ?_⟩
      · by_cases heq : k = e.path.components
        · rw [hout k fun hunder => hunder.2 heq, heq, hself, ofEntries_preorder_self h]
        · exact hin k ⟨hk, heq⟩
      · rw [hout k fun hunder => hk hunder.1, hrest k fun heq => hk (heq ▸ List.prefix_refl _)]

theorem carries_deletions (root : List Component) (h : e.Everywhere Entry.Listed) :
    Carries root e.path.components (Event.deletions e) (ofEntries e.preorder)
      (ofEntries []) := by
  induction e using Entry.induction_children with
  | step e ih =>
      intro m hroom hm
      have hlisted := h e e.mem_preorder_self
      have hself : m e.path.components = some e.fact :=
        (hm _ (List.prefix_refl _)).trans (ofEntries_preorder_self h)
      obtain ⟨m', hs, hin, hout⟩ := exists_replays_under (m := m)
        (fun c hc => exists_components_of_mem_children hlisted hc)
        (pairwise_apart_children hlisted)
        (fun c hc => (ih c hc (h.child hc)).congr
          (fun k hk => ofEntries_preorder_of_mem_children h hc hk) fun _ _ => rfl)
        (fun k hk hnone => ofEntries_preorder_of_under h hk hnone)
        (fun c hc => ⟨_, hself, Entry.isDirectory_of_mem_children hc⟩)
        fun k hk => hm k hk.1
      have hself' : m' e.path.components = some e.fact :=
        (hout _ fun hunder => hunder.2 rfl).trans hself
      have hallows : m'.Allows root ⟨.deleted e, e⟩ :=
        .deletion (Alteration.isDeletion_deleted e)
          ⟨e.fact, hself', (Alteration.ofDirectory_deleted e).symm⟩
          fun k hk hne => hin k ⟨hk, hne⟩
      have hrest : ∀ k, k ≠ e.path.components → m'.apply ⟨.deleted e, e⟩ k = m' k :=
        fun k hk => apply_of_ne m' ⟨.deleted e, e⟩ hk
      rw [Event.deletions_eq_append]
      refine ⟨m'.apply ⟨.deleted e, e⟩, hs.append (.single hallows), fun k hk => ?_,
        fun k hk => ?_⟩
      · by_cases heq : k = e.path.components
        · simp [Replica.apply, heq, ofEntries]
        · rw [hrest k heq]
          exact hin k ⟨hk, heq⟩
      · rw [hrest k fun heq => hk (heq ▸ List.prefix_refl _)]
        exact hout k fun hunder => hk hunder.1

theorem carries_replace (root : List Component) {p : Entry} (hp : p.Everywhere Entry.Listed)
    (hc : c.Everywhere Entry.Listed) (hpath : p.path = c.path) :
    Carries root p.path.components (Event.deletions p ++ Event.creations c)
      (ofEntries p.preorder) (ofEntries c.preorder) :=
  (carries_deletions root hp).append (hpath ▸ carries_creations root hc)

/-- A change of what is there, told unless nothing is to be told of it. -/
theorem exists_replays_change {m : Replica} {p c : Entry} {kind : Alteration} {changed : Prop}
    [Decidable changed] (hcreation : kind.isCreation = false)
    (hdeletion : kind.isDeletion = false) (hself : m c.path.components = some p.fact)
    (hp : p.isDirectory = kind.ofDirectory) (hc : c.isDirectory = kind.ofDirectory)
    (hsame : ¬ changed → p.fact = c.fact) :
    ∃ m', Replays root m (if changed then [⟨kind, c⟩] else []) m' ∧
      m' c.path.components = some c.fact ∧ ∀ k, k ≠ c.path.components → m' k = m k := by
  split
  · have hallows : m.Allows root ⟨kind, c⟩ := .change hcreation hdeletion ⟨p.fact, hself, hp⟩
    refine ⟨m.apply ⟨kind, c⟩, .single hallows, ?_, fun k hk => apply_of_ne m _ hk⟩
    simp [Replica.apply, hdeletion, ← hc, Entry.fact]
  · rename_i hunchanged
    exact ⟨m, .nil m, hsame hunchanged ▸ hself, fun _ _ => rfl⟩

theorem carries_append_of_under {p : Entry} (hp : p.Everywhere Entry.Listed)
    (hc : c.Everywhere Entry.Listed) (hpath : p.path = c.path)
    (hunder : ∀ m : Replica, m p.path.components = some p.fact →
      (∀ k, Under p.path.components k → m k = ofEntries p.preorder k) →
      ∃ m', Replays root m vs m' ∧
        (∀ k, Under p.path.components k → m' k = ofEntries c.preorder k) ∧
        ∀ k, ¬ Under p.path.components k → m' k = m k)
    (hself : ∀ m : Replica, m p.path.components = some p.fact →
      ∃ m', Replays root m ws m' ∧ m' p.path.components = some c.fact ∧
        ∀ k, k ≠ p.path.components → m' k = m k) :
    Carries root p.path.components (vs ++ ws) (ofEntries p.preorder)
      (ofEntries c.preorder) := by
  intro m _ hm
  obtain ⟨m₁, hs₁, hin₁, hout₁⟩ := hunder m
    ((hm _ (List.prefix_refl _)).trans (ofEntries_preorder_self hp)) fun k hk => hm k hk.1
  obtain ⟨m₂, hs₂, hin₂, hout₂⟩ := hself m₁
    ((hout₁ _ fun hk => hk.2 rfl).trans
      ((hm _ (List.prefix_refl _)).trans (ofEntries_preorder_self hp)))
  refine ⟨m₂, hs₁.append hs₂, fun k hk => ?_, fun k hk => ?_⟩
  · by_cases heq : k = p.path.components
    · rw [heq, hin₂, hpath, ofEntries_preorder_self hc]
    · rw [hout₂ k heq, hin₁ k ⟨hk, heq⟩]
  · rw [hout₂ k fun heq => hk (heq ▸ List.prefix_refl _), hout₁ k fun hunder => hk hunder.1]

theorem ofEntries_preorder_of_not_directory (h : e.Everywhere Entry.Listed)
    (he : e.isDirectory = false) (hk : Under e.path.components k) :
    ofEntries e.preorder k = none := by
  refine ofEntries_preorder_of_under h hk fun c hc => ?_
  rw [Entry.isDirectory_of_mem_children hc] at he
  cases he

end Replica

namespace EntryOrder

open Replica

variable {o : EntryOrder}

/-- One of two versions of a directory, with the versions of what is in it that pairings have
from there. -/
structure IsSide (o : EntryOrder) (p c : Entry) (side : Pairing → Option Entry) (e : Entry) :
    Prop where
  listed : e.Everywhere Entry.Listed
  path_eq : e.path = p.path
  mem_children : ∀ q ∈ o.pairings p.children c.children, ∀ x, side q = some x → x ∈ e.children
  exists_mem : ∀ x ∈ e.children, ∃ q ∈ o.pairings p.children c.children, side q = some x
  mem_versions : ∀ q x, side q = some x → x ∈ q.versions

theorem Proper.isSide_old {p c : Entry} (h : o.Proper (.matched p c)) :
    o.IsSide p c Pairing.old? p where
  listed := (h.isSnapshot p (by simp [Pairing.versions])).listed
  path_eq := rfl
  mem_children _ hq _ hx := mem_old_of_mem_pairings hq hx
  exists_mem _ hx := o.exists_mem_pairings_of_mem_old c.children hx
  mem_versions _ _ hx := Pairing.mem_versions_iff.2 (.inl hx)

theorem Proper.isSide_new {p c : Entry} (h : o.Proper (.matched p c)) :
    o.IsSide p c Pairing.new? c where
  listed := (h.isSnapshot c (by simp [Pairing.versions])).listed
  path_eq := h.path_eq.symm
  mem_children _ hq _ hx := mem_new_of_mem_pairings hq hx
  exists_mem _ hx := o.exists_mem_pairings_of_mem_new p.children hx
  mem_versions _ _ hx := Pairing.mem_versions_iff.2 (.inr hx)

namespace IsSide

variable {p c e : Entry} {side : Pairing → Option Entry} {q : Pairing} {k : List Component}

theorem path_eq_of_side (hside : o.IsSide p c side e) (h : o.Proper (.matched p c))
    (ho : o.ByPath) (hq : q ∈ o.pairings p.children c.children) {x : Entry}
    (hx : side q = some x) : x.path = q.path :=
  h.siblings.path_eq_of_mem_versions ho hq (hside.mem_versions q x hx)

/-- What is known of the tree below the path of a pairing is known of the version in it. -/
theorem ofEntries_eq (hside : o.IsSide p c side e) (h : o.Proper (.matched p c)) (ho : o.ByPath)
    (hq : q ∈ o.pairings p.children c.children) (hk : q.path.components <+: k) :
    ofEntries e.preorder k = ofEntries ((side q).toList.flatMap Entry.preorder) k := by
  cases hx : side q with
  | some x =>
      rw [← hside.path_eq_of_side h ho hq hx] at hk
      rw [ofEntries_preorder_of_mem_children hside.listed (hside.mem_children q hq x hx) hk]
      simp
  | none =>
      obtain ⟨n, hn, hpath⟩ := h.siblings.exists_name hq
      have hunder : Under e.path.components k := by
        rw [hpath, Path.components_child _ hn, ← hside.path_eq] at hk
        exact under_of_append_isPrefix hk
      refine ofEntries_preorder_of_under hside.listed hunder fun x hx' hxk => ?_
      obtain ⟨r, hr, hrx⟩ := hside.exists_mem x hx'
      rw [hside.path_eq_of_side h ho hr hrx] at hxk
      rw [h.siblings.eq_of_isPrefix ho hr hq hxk hk] at hrx
      simp [hrx] at hx

theorem ofEntries_eq_none (hside : o.IsSide p c side e) (h : o.Proper (.matched p c))
    (ho : o.ByPath) (hk : Under p.path.components k)
    (hnone : ∀ q ∈ o.pairings p.children c.children, ¬ q.path.components <+: k) :
    ofEntries e.preorder k = none := by
  refine ofEntries_preorder_of_under hside.listed (by rwa [hside.path_eq]) fun x hx hxk => ?_
  obtain ⟨r, hr, hrx⟩ := hside.exists_mem x hx
  rw [hside.path_eq_of_side h ho hr hrx] at hxk
  exact hnone r hr hxk

end IsSide

/-- From the old version of a directory, the events of what is in it lead to the new one. -/
theorem Proper.exists_replays_childEvents {p c : Entry} (h : o.Proper (.matched p c))
    (ho : o.ByPath) (root : List Component)
    (hcarries : ∀ q ∈ o.pairings p.children c.children, Carries root q.path.components
      (o.pairingEvents q) (ofEntries q.olds) (ofEntries q.news)) {m : Replica}
    (hdir : m.Holds p.path.components true)
    (hm : ∀ k, Under p.path.components k → m k = ofEntries p.preorder k) :
    ∃ m', Replays root m (o.childEvents p.children c.children) m' ∧
      (∀ k, Under p.path.components k → m' k = ofEntries c.preorder k) ∧
      ∀ k, ¬ Under p.path.components k → m' k = m k := by
  refine exists_replays_under (fun q hq => ?_) (h.siblings.pairwise_apart ho)
    (fun q hq => (hcarries q hq).congr (fun k hk => h.isSide_old.ofEntries_eq h ho hq hk)
      fun k hk => h.isSide_new.ofEntries_eq h ho hq hk)
    (fun k hk hnone => ?_) (fun _ _ => hdir) hm
  · obtain ⟨n, hn, hpath⟩ := h.siblings.exists_name hq
    exact ⟨_, by rw [hpath, Path.components_child _ hn]⟩
  · rw [h.isSide_old.ofEntries_eq_none h ho hk hnone, h.isSide_new.ofEntries_eq_none h ho hk hnone]

/-- The events of a pairing lead from its old version to its new one. -/
theorem Proper.carries {q : Pairing} (h : o.Proper q) (ho : o.ByPath) (root : List Component) :
    Carries root q.path.components (o.pairingEvents q) (ofEntries q.olds)
      (ofEntries q.news) := by
  induction q using o.pairing_induction with
  | deleted p =>
      have hp := h.isSnapshot p (by simp [Pairing.versions])
      simpa [Pairing.olds, Pairing.news, pairingEvents] using carries_deletions root hp.listed
  | created c =>
      have hc := h.isSnapshot c (by simp [Pairing.versions])
      simpa [Pairing.olds, Pairing.news, pairingEvents] using carries_creations root hc.listed
  | replaced p c =>
      have hp := h.isSnapshot p (by simp [Pairing.versions])
      have hc := h.isSnapshot c (by simp [Pairing.versions])
      simpa [Pairing.olds, Pairing.news, pairingEvents] using
        carries_replace root hp.listed hc.listed hc.path_eq.symm
  | differ p c hne =>
      simpa [Pairing.olds, Pairing.news, pairingEvents, matchedEvents_of_ne hne] using
        carries_replace root h.isSide_old.listed h.isSide_new.listed h.path_eq
  | files p c hp hc =>
      have hcarries : Carries root p.path.components ([] ++ Event.fileChanges p c)
          (ofEntries p.preorder) (ofEntries c.preorder) := by
        refine carries_append_of_under h.isSide_old.listed h.isSide_new.listed h.path_eq ?_ ?_
        · refine fun m _ hm => ⟨m, .nil m, fun k hk => ?_, fun _ _ => rfl⟩
          rw [hm k hk, ofEntries_preorder_of_not_directory h.isSide_old.listed hp hk]
          rw [h.path_eq] at hk
          rw [ofEntries_preorder_of_not_directory h.isSide_new.listed hc hk]
        · intro m hself
          rw [h.path_eq] at hself ⊢
          refine exists_replays_change rfl rfl hself hp hc fun hsame => ?_
          simp_all [Entry.fact]
      simpa [Pairing.olds, Pairing.news, pairingEvents, matchedEvents_files hp hc] using hcarries
  | directories p c hp hc ih =>
      have hcarries : Carries root p.path.components
          (o.childEvents p.children c.children ++ Event.directoryChanges p c)
          (ofEntries p.preorder) (ofEntries c.preorder) := by
        refine carries_append_of_under h.isSide_old.listed h.isSide_new.listed h.path_eq ?_ ?_
        · exact fun m hself hm => h.exists_replays_childEvents ho root
            (fun q hq => ih q hq (h.of_mem_pairings ho hq)) ⟨p.fact, hself, hp⟩ hm
        · intro m hself
          rw [h.path_eq] at hself ⊢
          refine exists_replays_change rfl rfl hself hp hc fun hsame => ?_
          rw [Entry.fact_of_isDirectory hp, Entry.fact_of_isDirectory hc, not_not.1 hsame]
      simpa [Pairing.olds, Pairing.news, pairingEvents, matchedEvents_directory o hp hc] using
        hcarries

theorem exists_replays_of_carries {root : Path} {olds news : List Entry} {vs : List Event}
    (h : Carries root.components root.components vs (ofEntries olds) (ofEntries news))
    (hold : ∀ k, ¬ root.components <+: k → ofEntries olds k = none)
    (hnew : ∀ k, ¬ root.components <+: k → ofEntries news k = none) :
    ∃ m, Replays root.components (ofEntries olds) vs m ∧
      Agree root.components m (ofEntries news) := by
  obtain ⟨m, hs, hin, hout⟩ := h _ (.inl rfl) fun _ _ => rfl
  refine ⟨m, hs, fun k => .inl ?_⟩
  by_cases hk : root.components <+: k
  · exact hin k hk
  · rw [hout k hk, hold k hk, hnew k hk]

theorem ofEntries_preorder_of_not_isPrefix_root {root : Path} {e : Entry}
    (h : e.IsSnapshot o root) {k : List Component} (hk : ¬ root.components <+: k) :
    ofEntries e.preorder k = none :=
  ofEntries_preorder_of_not_isPrefix h.listed (by rwa [h.path_eq])

theorem exists_replays_diff_directories {root : Path} {old new : Entry}
    (hold : old.IsSnapshot o root) (hnew : new.IsSnapshot o root) (ho : o.ByPath)
    (hp : old.isDirectory = true) (hc : new.isDirectory = true) :
    ∃ m, Replays root.components (ofEntries old.preorder) (o.diff old new) m ∧
      Agree root.components m (ofEntries new.preorder) := by
  have hproper := proper_matched hold hnew
  have hself := ofEntries_preorder_self hold.listed
  have hself' := ofEntries_preorder_self hnew.listed
  obtain ⟨m, hs, hin, hout⟩ := hproper.exists_replays_childEvents ho root.components
    (fun q hq => (hproper.of_mem_pairings ho hq).carries ho root.components)
    ⟨_, hself, hp⟩ fun _ _ => rfl
  rw [hold.path_eq] at hself hin hout
  rw [hnew.path_eq] at hself'
  rw [diff_directories hp hc]
  refine ⟨m, hs, fun k => ?_⟩
  by_cases hunder : Under root.components k
  · exact .inl (hin k hunder)
  · by_cases hk : k = root.components
    · refine .inr ⟨hk, old.modified, new.modified, ?_, ?_⟩
      · rw [hout k hunder, hk, hself, Entry.fact_of_isDirectory hp]
      · rw [hk, hself', Entry.fact_of_isDirectory hc]
    · have hprefix : ¬ root.components <+: k := fun h => hunder ⟨h, hk⟩
      rw [hout k hunder, ofEntries_preorder_of_not_isPrefix_root hold hprefix,
        ofEntries_preorder_of_not_isPrefix_root hnew hprefix]
      exact .inl rfl

/-- From the old of two snapshots of a root, their difference leads to the new one, but for the
modification time of a root that stays a directory. -/
theorem exists_replays_diff {root : Path} {old new : Entry} (hold : old.IsSnapshot o root)
    (hnew : new.IsSnapshot o root) (ho : o.ByPath) :
    ∃ m, Replays root.components (ofEntries old.found) (o.diff old new) m ∧
      Agree root.components m (ofEntries new.found) := by
  have hnothing : ∀ k, ¬ root.components <+: k → ofEntries [] k = none := fun _ _ => rfl
  have holdOut (k : List Component) := ofEntries_preorder_of_not_isPrefix_root hold (k := k)
  have hnewOut (k : List Component) := ofEntries_preorder_of_not_isPrefix_root hnew (k := k)
  cases hp : old.present <;> cases hc : new.present
  · rw [Entry.found_of_not_present hp, Entry.found_of_not_present hc, diff, hp, hc]
    exact ⟨_, .nil _, .refl _ _⟩
  · rw [Entry.found_of_not_present hp, Entry.found_of_present hnew.listed hc, diff, hp, hc]
    have hcarries := carries_creations root.components hnew.listed
    rw [hnew.path_eq] at hcarries
    exact exists_replays_of_carries hcarries hnothing hnewOut
  · rw [Entry.found_of_present hold.listed hp, Entry.found_of_not_present hc, diff, hp, hc]
    have hcarries := carries_deletions root.components hold.listed
    rw [hold.path_eq] at hcarries
    exact exists_replays_of_carries hcarries holdOut hnothing
  · rw [Entry.found_of_present hold.listed hp, Entry.found_of_present hnew.listed hc]
    by_cases hd : old.isDirectory = true ∧ new.isDirectory = true
    · exact exists_replays_diff_directories hold hnew ho hd.1 hd.2
    · rw [diff_eq_matchedEvents hp hc hd]
      have hcarries := (proper_matched hold hnew).carries ho root.components
      rw [Pairing.path, hold.path_eq] at hcarries
      refine exists_replays_of_carries ?_ holdOut hnewOut
      simpa [Pairing.olds, Pairing.news, pairingEvents] using hcarries

end EntryOrder

end TreeWatch
