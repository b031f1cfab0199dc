import TreeWatch.Diff
import TreeWatch.Proofs.Comparator.Order

/-!
# Pairing the entries of a directory

What the pairings of two lists of siblings keep and bring together. No entry is lost or doubled
(`perm_olds_pairings`, `perm_news_pairings`). If both lists are sorted, the pairings come in the
order of their first versions (`pairwise_first_pairings`), and no deleted entry is left apart
from a created one that is the same (`key_ne_of_mem_pairings`).
-/

namespace TreeWatch

namespace EntryOrder

def earlier (o : EntryOrder) (p c : Entry) : Entry := if o.order c p = .lt then c else p

theorem earlier_eq_or (o : EntryOrder) (p c : Entry) :
    o.earlier p c = p ∨ o.earlier p c = c := by
  rw [earlier]
  split <;> simp

end EntryOrder

namespace MergeStep

@[simp] def old? : MergeStep → Option Entry
  | deleted p => some p
  | created _ => none
  | matched p _ => some p

@[simp] def new? : MergeStep → Option Entry
  | deleted _ => none
  | created c => some c
  | matched _ c => some c

@[simp] def toPairing : MergeStep → Pairing
  | deleted p => .deleted p
  | created c => .created c
  | matched p c => .matched p c

theorem toPairing_inj {s t : MergeStep} (h : s.toPairing = t.toPairing) : s = t := by
  cases s <;> cases t <;> simp_all

/-- The version of the entry that a step is about by which the step is placed. -/
@[simp] def first (o : EntryOrder) : MergeStep → Entry
  | deleted p => p
  | created c => c
  | matched p c => o.earlier p c

end MergeStep

namespace Pairing

@[simp] def old? : Pairing → Option Entry
  | deleted p => some p
  | created _ => none
  | matched p _ => some p
  | replaced p _ => some p

@[simp] def new? : Pairing → Option Entry
  | deleted _ => none
  | created c => some c
  | matched _ c => some c
  | replaced _ c => some c

/-- The version of the entry that a pairing is about by which the pairing is placed. -/
@[simp] def first (o : EntryOrder) : Pairing → Entry
  | deleted p => p
  | created c => c
  | matched p c => o.earlier p c
  | replaced p c => o.earlier p c

end Pairing

theorem extract?_eq_none_iff {α β : Type} {f : α → Option β} {l : List α} :
    extract? f l = none ↔ ∀ a ∈ l, f a = none := by
  induction l with
  | nil => simp [extract?]
  | cons a as ih =>
      rw [extract?]
      cases h : f a with
      | some b => simp [h]
      | none => simp [h, ih]

theorem sublist_of_extract? {α β : Type} {f : α → Option β} {l : List α} {b : β}
    {rest : List α} (h : extract? f l = some (b, rest)) : rest.Sublist l := by
  induction l generalizing rest with
  | nil => simp [extract?] at h
  | cons a as ih =>
      rw [extract?] at h
      split at h
      · simp only [Option.some.injEq, Prod.mk.injEq] at h
        exact h.2 ▸ List.sublist_cons_self a as
      · obtain ⟨⟨c, r⟩, hr, hc⟩ := Option.map_eq_some_iff.1 h
        simp only [Prod.mk.injEq] at hc
        rw [← hc.2]
        exact (ih (hc.1 ▸ hr)).cons_cons a

namespace EntryOrder

variable {o : EntryOrder}

/-! ## Nothing is lost -/

theorem olds_merge (o : EntryOrder) (old new : List Entry) :
    (o.merge old new).filterMap MergeStep.old? = old := by
  fun_induction merge o old new with
  | case1 new => simp [List.filterMap_eq_nil_iff]
  | case2 p old => simp [Function.comp_def]
  | case3 p old c new _ ih => simp [ih]
  | case4 p old c new _ ih => simp [List.filterMap_cons, ih]
  | case5 p old c new _ ih => simp [ih]

theorem news_merge (o : EntryOrder) (old new : List Entry) :
    (o.merge old new).filterMap MergeStep.new? = new := by
  fun_induction merge o old new with
  | case1 new => simp [Function.comp_def]
  | case2 p old => simp [List.filterMap_eq_nil_iff]
  | case3 p old c new _ ih => simp [List.filterMap_cons, ih]
  | case4 p old c new _ ih => simp [ih]
  | case5 p old c new _ ih => simp [ih]

theorem createdAs?_eq_some_iff {p c : Entry} {step : MergeStep} :
    o.createdAs? p step = some c ↔
      step = .created c ∧ c.isDirectory ≠ p.isDirectory ∧ o.same p c = true := by
  cases step <;> simp only [createdAs?] <;> grind

theorem deletedAs?_eq_some_iff {p c : Entry} {step : MergeStep} :
    o.deletedAs? c step = some p ↔
      step = .deleted p ∧ p.isDirectory ≠ c.isDirectory ∧ o.same c p = true := by
  cases step <;> simp only [deletedAs?] <;> grind

/-- The step that a deleted entry is paired with is taken out of the steps. -/
theorem perm_of_extract?_createdAs? {p c : Entry} {steps rest : List MergeStep}
    (h : extract? (o.createdAs? p) steps = some (c, rest)) :
    steps.Perm (.created c :: rest) ∧ c.isDirectory ≠ p.isDirectory ∧ o.same p c = true := by
  obtain ⟨step, hstep, hperm⟩ := perm_of_extract? h
  obtain ⟨rfl, htype, hsame⟩ := createdAs?_eq_some_iff.1 hstep
  exact ⟨hperm, htype, hsame⟩

/-- The step that a created entry is paired with is taken out of the steps. -/
theorem perm_of_extract?_deletedAs? {p c : Entry} {steps rest : List MergeStep}
    (h : extract? (o.deletedAs? c) steps = some (p, rest)) :
    steps.Perm (.deleted p :: rest) ∧ p.isDirectory ≠ c.isDirectory ∧ o.same c p = true := by
  obtain ⟨step, hstep, hperm⟩ := perm_of_extract? h
  obtain ⟨rfl, htype, hsame⟩ := deletedAs?_eq_some_iff.1 hstep
  exact ⟨hperm, htype, hsame⟩

theorem perm_olds_pairUp (o : EntryOrder) (steps : List MergeStep) :
    ((o.pairUp steps).filterMap Pairing.old?).Perm (steps.filterMap MergeStep.old?) := by
  fun_induction pairUp o steps with
  | case1 => simp
  | case2 p c steps ih => simpa using ih
  | case3 p steps c rest hx ih =>
      have hperm := (perm_of_extract?_createdAs? hx).1.filterMap MergeStep.old?
      simpa [List.filterMap_cons] using ih.trans hperm.symm
  | case4 p steps hx ih => simpa using ih
  | case5 c steps p rest hx ih =>
      have hperm := (perm_of_extract?_deletedAs? hx).1.filterMap MergeStep.old?
      simpa [List.filterMap_cons] using (ih.cons p).trans hperm.symm
  | case6 c steps hx ih => simpa [List.filterMap_cons] using ih

theorem perm_news_pairUp (o : EntryOrder) (steps : List MergeStep) :
    ((o.pairUp steps).filterMap Pairing.new?).Perm (steps.filterMap MergeStep.new?) := by
  fun_induction pairUp o steps with
  | case1 => simp
  | case2 p c steps ih => simpa using ih
  | case3 p steps c rest hx ih =>
      have hperm := (perm_of_extract?_createdAs? hx).1.filterMap MergeStep.new?
      simpa [List.filterMap_cons] using (ih.cons c).trans hperm.symm
  | case4 p steps hx ih => simpa [List.filterMap_cons] using ih
  | case5 c steps p rest hx ih =>
      have hperm := (perm_of_extract?_deletedAs? hx).1.filterMap MergeStep.new?
      simpa [List.filterMap_cons] using ih.trans hperm.symm
  | case6 c steps hx ih => simpa using ih

theorem perm_olds_pairings (o : EntryOrder) (old new : List Entry) :
    ((o.pairings old new).filterMap Pairing.old?).Perm old := by
  have h := perm_olds_pairUp o (o.merge old new)
  rwa [olds_merge] at h

theorem perm_news_pairings (o : EntryOrder) (old new : List Entry) :
    ((o.pairings old new).filterMap Pairing.new?).Perm new := by
  have h := perm_news_pairUp o (o.merge old new)
  rwa [news_merge] at h

theorem mem_old_of_mem_merge {old new : List Entry} {step : MergeStep} {p : Entry}
    (h : step ∈ o.merge old new) (hp : step.old? = some p) : p ∈ old := by
  rw [← olds_merge o old new]
  exact List.mem_filterMap.2 ⟨step, h, hp⟩

theorem mem_new_of_mem_merge {old new : List Entry} {step : MergeStep} {c : Entry}
    (h : step ∈ o.merge old new) (hc : step.new? = some c) : c ∈ new := by
  rw [← news_merge o old new]
  exact List.mem_filterMap.2 ⟨step, h, hc⟩

theorem first_mem_of_mem_merge {old new : List Entry} {step : MergeStep}
    (h : step ∈ o.merge old new) : step.first o ∈ old ∨ step.first o ∈ new := by
  cases step with
  | deleted p => exact .inl (mem_old_of_mem_merge h rfl)
  | created c => exact .inr (mem_new_of_mem_merge h rfl)
  | matched p c =>
      have hp := mem_old_of_mem_merge h rfl
      have hc := mem_new_of_mem_merge h rfl
      rcases o.earlier_eq_or p c with he | he <;> simp [he, hp, hc]

theorem mem_old_of_mem_pairings {old new : List Entry} {q : Pairing} {p : Entry}
    (h : q ∈ o.pairings old new) (hp : q.old? = some p) : p ∈ old :=
  (perm_olds_pairings o old new).mem_iff.1 (List.mem_filterMap.2 ⟨q, h, hp⟩)

theorem mem_new_of_mem_pairings {old new : List Entry} {q : Pairing} {c : Entry}
    (h : q ∈ o.pairings old new) (hc : q.new? = some c) : c ∈ new :=
  (perm_news_pairings o old new).mem_iff.1 (List.mem_filterMap.2 ⟨q, h, hc⟩)

theorem mem_of_toPairing_mem_pairUp {steps : List MergeStep} {s : MergeStep}
    (h : s.toPairing ∈ o.pairUp steps) : s ∈ steps := by
  fun_induction pairUp o steps with
  | case1 => simp at h
  | case2 p c steps ih =>
      rcases List.mem_cons.1 h with h | h
      · rw [MergeStep.toPairing_inj (t := .matched p c) h]
        exact List.mem_cons_self
      · exact List.mem_cons_of_mem _ (ih h)
  | case3 p steps c rest hx ih =>
      rcases List.mem_cons.1 h with h | h
      · cases s <;> simp at h
      · exact List.mem_cons_of_mem _ ((sublist_of_extract? hx).subset (ih h))
  | case4 p steps hx ih =>
      rcases List.mem_cons.1 h with h | h
      · rw [MergeStep.toPairing_inj (t := .deleted p) h]
        exact List.mem_cons_self
      · exact List.mem_cons_of_mem _ (ih h)
  | case5 c steps p rest hx ih =>
      rcases List.mem_cons.1 h with h | h
      · cases s <;> simp at h
      · exact List.mem_cons_of_mem _ ((sublist_of_extract? hx).subset (ih h))
  | case6 c steps hx ih =>
      rcases List.mem_cons.1 h with h | h
      · rw [MergeStep.toPairing_inj (t := .created c) h]
        exact List.mem_cons_self
      · exact List.mem_cons_of_mem _ (ih h)

theorem matched_mem_pairUp {steps : List MergeStep} {p c : Entry}
    (h : .matched p c ∈ steps) : .matched p c ∈ o.pairUp steps := by
  fun_induction pairUp o steps with
  | case1 => simp at h
  | case2 q d steps ih => grind
  | case3 q steps d rest hx ih =>
      have hperm := (perm_of_extract?_createdAs? hx).1.mem_iff (a := .matched p c)
      simp_all
  | case4 q steps hx ih => simp_all
  | case5 d steps q rest hx ih =>
      have hperm := (perm_of_extract?_deletedAs? hx).1.mem_iff (a := .matched p c)
      simp_all
  | case6 d steps hx ih => simp_all

/-- Versions that are brought together from two steps differ in type. -/
theorem same_of_replaced_mem_pairUp {steps : List MergeStep} {p c : Entry}
    (h : .replaced p c ∈ o.pairUp steps) :
    p.isDirectory ≠ c.isDirectory ∧ (o.same p c = true ∨ o.same c p = true) := by
  fun_induction pairUp o steps with
  | case1 => simp at h
  | case2 q d steps ih => simp_all
  | case3 q steps d rest hx ih =>
      obtain ⟨_, htype, hsame⟩ := perm_of_extract?_createdAs? hx
      rcases List.mem_cons.1 h with h | h
      · cases h
        exact ⟨htype.symm, .inl hsame⟩
      · exact ih h
  | case4 q steps hx ih => simp_all
  | case5 d steps q rest hx ih =>
      obtain ⟨_, htype, hsame⟩ := perm_of_extract?_deletedAs? hx
      rcases List.mem_cons.1 h with h | h
      · cases h
        exact ⟨htype, .inr hsame⟩
      · exact ih h
  | case6 d steps hx ih => simp_all

/-- Of a deleted and a created entry of different types that are left apart, neither is the
other. -/
theorem same_eq_false_of_mem_pairUp {steps : List MergeStep} {p c : Entry}
    (hp : .deleted p ∈ o.pairUp steps) (hc : .created c ∈ o.pairUp steps)
    (htype : p.isDirectory ≠ c.isDirectory) : o.same p c = false ∨ o.same c p = false := by
  fun_induction pairUp o steps with
  | case1 => simp at hp
  | case2 q d steps ih => simp_all
  | case3 q steps d rest hx ih => simp_all
  | case4 q steps hx ih =>
      rcases List.mem_cons.1 hp with h | hp
      · -- the search from the deleted entry went over all steps that follow
        cases h
        have hstep := mem_of_toPairing_mem_pairUp (s := .created c)
          (List.mem_of_ne_of_mem (by simp) hc)
        have hnone := extract?_eq_none_iff.1 hx _ hstep
        refine .inl (Bool.eq_false_iff.2 fun hs => ?_)
        simpa [hnone] using createdAs?_eq_some_iff.2 ⟨rfl, htype.symm, hs⟩
      · exact ih hp (List.mem_of_ne_of_mem (by simp) hc)
  | case5 d steps q rest hx ih => simp_all
  | case6 d steps hx ih =>
      rcases List.mem_cons.1 hc with h | hc
      · cases h
        have hstep := mem_of_toPairing_mem_pairUp (s := .deleted p)
          (List.mem_of_ne_of_mem (by simp) hp)
        have hnone := extract?_eq_none_iff.1 hx _ hstep
        refine .inr (Bool.eq_false_iff.2 fun hs => ?_)
        simpa [hnone] using deletedAs?_eq_some_iff.2 ⟨rfl, htype, hs⟩
      · exact ih (List.mem_of_ne_of_mem (by simp) hp) hc

/-! ## Sorted siblings -/

section Keyed

variable {κ : Type} [LinearOrder κ] {rank : Bool → ℕ} {key : Entry → κ}

def Ascending (rank : Bool → ℕ) (key : Entry → κ) (es : List Entry) : Prop :=
  es.Pairwise fun a b => position rank key a < position rank key b

theorem KeyedBy.ascending (h : o.KeyedBy rank key) {es : List Entry}
    (hes : es.Pairwise fun a b => o.order a b = .lt) : Ascending rank key es :=
  hes.imp fun hab => h.order_eq_lt_iff.1 hab

theorem KeyedBy.next_eq_eq_iff (h : o.KeyedBy rank key) {p c : Entry} :
    o.next p c = .eq ↔ key p = key c := by
  rw [next]
  split
  · rename_i hs
    simp [h.same_iff p c |>.1 hs]
  · rename_i hs
    rw [h.order_eq_eq_iff]
    exact ⟨key_eq_of_position_eq, fun hk => absurd ((h.same_iff p c).2 hk) hs⟩

theorem KeyedBy.lt_of_next_eq_lt (h : o.KeyedBy rank key) {p c : Entry}
    (hn : o.next p c = .lt) : position rank key p < position rank key c := by
  rw [next] at hn
  split at hn
  · cases hn
  · exact h.order_eq_lt_iff.1 hn

theorem KeyedBy.gt_of_next_eq_gt (h : o.KeyedBy rank key) {p c : Entry}
    (hn : o.next p c = .gt) : position rank key c < position rank key p := by
  rw [next] at hn
  split at hn
  · cases hn
  · exact h.order_eq_gt_iff.1 hn

theorem KeyedBy.position_earlier (h : o.KeyedBy rank key) (p c : Entry) :
    position rank key (o.earlier p c) = min (position rank key p) (position rank key c) := by
  rw [earlier]
  split
  · rename_i hc
    rw [min_eq_right (h.order_eq_lt_iff.1 hc).le]
  · rename_i hc
    rw [h.order_eq_lt_iff, not_lt] at hc
    rw [min_eq_left hc]

theorem KeyedBy.earlier_of_lt (h : o.KeyedBy rank key) {p c : Entry}
    (hlt : position rank key p < position rank key c) : o.earlier p c = p := by
  rw [earlier, if_neg]
  rw [h.order_eq_lt_iff]
  exact hlt.not_gt

theorem KeyedBy.earlier_of_gt (h : o.KeyedBy rank key) {p c : Entry}
    (hlt : position rank key c < position rank key p) : o.earlier p c = c :=
  if_pos (h.order_eq_lt_iff.2 hlt)

theorem KeyedBy.key_eq_of_matched_mem_merge (h : o.KeyedBy rank key) {old new : List Entry}
    {p c : Entry} (hm : .matched p c ∈ o.merge old new) : key p = key c := by
  fun_induction merge o old new with
  | case1 => simp at hm
  | case2 => simp at hm
  | case3 q old d new _ ih => exact ih (by simpa using hm)
  | case4 q old d new _ ih => exact ih (by simpa using hm)
  | case5 q old d new hn ih =>
      rcases List.mem_cons.1 hm with hm | hm
      · cases hm
        exact h.next_eq_eq_iff.1 hn
      · exact ih hm

theorem KeyedBy.key_eq_of_mem_pairings (h : o.KeyedBy rank key) {old new : List Entry}
    {q : Pairing} {p c : Entry} (hq : q ∈ o.pairings old new) (hp : q.old? = some p)
    (hc : q.new? = some c) : key p = key c := by
  cases q with
  | deleted p => simp at hc
  | created c => simp at hp
  | matched p c =>
      cases hp
      cases hc
      exact h.key_eq_of_matched_mem_merge (matched_mem_of_mem_pairUp hq)
  | replaced p c =>
      cases hp
      cases hc
      rcases (same_of_replaced_mem_pairUp hq).2 with hs | hs
      · exact (h.same_iff _ _).1 hs
      · exact ((h.same_iff _ _).1 hs).symm

/-- The steps of a merge come in the order of the entries that they are about. -/
theorem KeyedBy.pairwise_first_merge (h : o.KeyedBy rank key) {old new : List Entry}
    (hold : Ascending rank key old) (hnew : Ascending rank key new) :
    (o.merge old new).Pairwise fun s t =>
      position rank key (s.first o) < position rank key (t.first o) := by
  fun_induction merge o old new with
  | case1 new => simpa [Ascending, List.pairwise_map] using hnew
  | case2 p old => simpa [Ascending, List.pairwise_map] using hold
  | case3 p old c new hn ih =>
      obtain ⟨hp, hold⟩ := List.pairwise_cons.1 hold
      have hpc := h.lt_of_next_eq_lt hn
      refine List.pairwise_cons.2 ⟨fun t ht => ?_, ih hold hnew⟩
      rcases first_mem_of_mem_merge ht with ht | ht
      · exact hp _ ht
      · rcases List.mem_cons.1 ht with ht | ht
        · exact ht ▸ hpc
        · exact hpc.trans ((List.pairwise_cons.1 hnew).1 _ ht)
  | case4 p old c new hn ih =>
      obtain ⟨hc, hnew⟩ := List.pairwise_cons.1 hnew
      have hcp := h.gt_of_next_eq_gt hn
      refine List.pairwise_cons.2 ⟨fun t ht => ?_, ih hold hnew⟩
      rcases first_mem_of_mem_merge ht with ht | ht
      · rcases List.mem_cons.1 ht with ht | ht
        · exact ht ▸ hcp
        · exact hcp.trans ((List.pairwise_cons.1 hold).1 _ ht)
      · exact hc _ ht
  | case5 p old c new hn ih =>
      obtain ⟨hp, hold⟩ := List.pairwise_cons.1 hold
      obtain ⟨hc, hnew⟩ := List.pairwise_cons.1 hnew
      refine List.pairwise_cons.2 ⟨fun t ht => ?_, ih hold hnew⟩
      rw [MergeStep.first, h.position_earlier]
      rcases first_mem_of_mem_merge ht with ht | ht
      · exact (min_le_left _ _).trans_lt (hp _ ht)
      · exact (min_le_right _ _).trans_lt (hc _ ht)

/-- In sorted steps, the first pairing is about the entry of the first step, and the others are
brought together from later steps. -/
theorem KeyedBy.exists_pairUp_eq (h : o.KeyedBy rank key) {s : MergeStep} {steps : List MergeStep}
    (hs : ∀ t ∈ steps, position rank key (s.first o) < position rank key (t.first o)) :
    ∃ q rest, o.pairUp (s :: steps) = q :: o.pairUp rest ∧ rest.Sublist steps ∧
      q.first o = s.first o := by
  cases s with
  | matched p c => exact ⟨_, _, by rw [pairUp], .refl _, rfl⟩
  | deleted p =>
      rw [pairUp]
      split
      · rename_i c rest hx
        have hmem := (perm_of_extract?_createdAs? hx).1.mem_iff.2 List.mem_cons_self
        exact ⟨_, _, rfl, sublist_of_extract? hx, h.earlier_of_lt (hs _ hmem)⟩
      · exact ⟨_, _, rfl, .refl _, rfl⟩
  | created c =>
      rw [pairUp]
      split
      · rename_i p rest hx
        have hmem := (perm_of_extract?_deletedAs? hx).1.mem_iff.2 List.mem_cons_self
        exact ⟨_, _, rfl, sublist_of_extract? hx, h.earlier_of_gt (hs _ hmem)⟩
      · exact ⟨_, _, rfl, .refl _, rfl⟩

/-- In sorted steps, two versions that are brought together are placed by the first step. -/
theorem KeyedBy.exists_first_eq_of_mem_pairUp (h : o.KeyedBy rank key)
    {steps : List MergeStep} {q : Pairing}
    (hs : steps.Pairwise fun s t =>
      position rank key (s.first o) < position rank key (t.first o))
    (hq : q ∈ o.pairUp steps) : ∃ s ∈ steps, s.first o = q.first o := by
  induction hlength : steps.length using Nat.strong_induction_on generalizing steps with
  | _ n ih =>
      cases steps with
      | nil => simp [pairUp] at hq
      | cons s steps =>
          obtain ⟨hhead, hsteps⟩ := List.pairwise_cons.1 hs
          obtain ⟨r, rest, heq, hsub, hfirst⟩ := h.exists_pairUp_eq hhead
          rw [heq] at hq
          rcases List.mem_cons.1 hq with rfl | hq
          · exact ⟨s, List.mem_cons_self, hfirst.symm⟩
          · have hshorter : rest.length < n := hlength ▸ Nat.lt_succ_of_le hsub.length_le
            obtain ⟨t, hmem, ht⟩ := ih _ hshorter (hsteps.sublist hsub) hq rfl
            exact ⟨t, List.mem_cons_of_mem s (hsub.subset hmem), ht⟩

theorem KeyedBy.pairwise_first_pairUp (h : o.KeyedBy rank key) {steps : List MergeStep}
    (hs : steps.Pairwise fun s t =>
      position rank key (s.first o) < position rank key (t.first o)) :
    (o.pairUp steps).Pairwise fun q r =>
      position rank key (q.first o) < position rank key (r.first o) := by
  induction hlength : steps.length using Nat.strong_induction_on generalizing steps with
  | _ n ih =>
      cases steps with
      | nil => simp [pairUp]
      | cons s steps =>
          obtain ⟨hhead, hsteps⟩ := List.pairwise_cons.1 hs
          obtain ⟨q, rest, heq, hsub, hfirst⟩ := h.exists_pairUp_eq hhead
          have hrest := hsteps.sublist hsub
          have hshorter : rest.length < n := hlength ▸ Nat.lt_succ_of_le hsub.length_le
          rw [heq]
          refine List.pairwise_cons.2 ⟨fun r hr => ?_, ih _ hshorter hrest rfl⟩
          obtain ⟨t, ht, heq⟩ := h.exists_first_eq_of_mem_pairUp hrest hr
          rw [hfirst, ← heq]
          exact hhead t (hsub.subset ht)

/-- The pairings come in the order of the entries that they are about, by the version of each
that is sorted first. -/
theorem KeyedBy.pairwise_first_pairings (h : o.KeyedBy rank key) {old new : List Entry}
    (hold : Ascending rank key old) (hnew : Ascending rank key new) :
    (o.pairings old new).Pairwise fun q r => o.order (q.first o) (r.first o) = .lt :=
  (h.pairwise_first_pairUp (h.pairwise_first_merge hold hnew)).imp fun hqr =>
    h.order_eq_lt_iff.2 hqr

/-- Entries of the same type that are the same are never passed by one another. -/
theorem KeyedBy.position_ne_of_mem_merge (h : o.KeyedBy rank key) {old new : List Entry}
    (hold : Ascending rank key old) (hnew : Ascending rank key new) {p c : Entry}
    (hp : .deleted p ∈ o.merge old new) (hc : .created c ∈ o.merge old new) :
    position rank key p ≠ position rank key c := by
  fun_induction merge o old new with
  | case1 => simp at hp
  | case2 => simp at hc
  | case3 q old d new hn ih =>
      have hqd := h.lt_of_next_eq_lt hn
      replace hc : .created c ∈ o.merge old (d :: new) := by simpa using hc
      rcases List.mem_cons.1 hp with hp | hp
      · cases hp
        rcases List.mem_cons.1 (mem_new_of_mem_merge hc rfl) with rfl | hmem
        · exact hqd.ne
        · exact (hqd.trans ((List.pairwise_cons.1 hnew).1 c hmem)).ne
      · exact ih (List.pairwise_cons.1 hold).2 hnew hp hc
  | case4 q old d new hn ih =>
      have hdq := h.gt_of_next_eq_gt hn
      replace hp : .deleted p ∈ o.merge (q :: old) new := by simpa using hp
      rcases List.mem_cons.1 hc with hc | hc
      · cases hc
        rcases List.mem_cons.1 (mem_old_of_mem_merge hp rfl) with rfl | hmem
        · exact hdq.ne'
        · exact (hdq.trans ((List.pairwise_cons.1 hold).1 p hmem)).ne'
      · exact ih hold (List.pairwise_cons.1 hnew).2 hp hc
  | case5 q old d new hn ih =>
      exact ih (List.pairwise_cons.1 hold).2 (List.pairwise_cons.1 hnew).2
        (by simpa using hp) (by simpa using hc)

/-- A deleted entry that is left apart from a created one is another entry. -/
theorem KeyedBy.key_ne_of_mem_pairings (h : o.KeyedBy rank key) {old new : List Entry}
    (hold : Ascending rank key old) (hnew : Ascending rank key new) {p c : Entry}
    (hp : .deleted p ∈ o.pairings old new) (hc : .created c ∈ o.pairings old new) :
    key p ≠ key c := by
  intro hkey
  by_cases htype : p.isDirectory = c.isDirectory
  · exact h.position_ne_of_mem_merge hold hnew
      (mem_of_toPairing_mem_pairUp (s := .deleted p) hp)
      (mem_of_toPairing_mem_pairUp (s := .created c) hc) (position_eq htype hkey)
  · have hpc := (h.same_iff p c).2 hkey
    have hcp := (h.same_iff c p).2 hkey.symm
    simpa [hpc, hcp] using same_eq_false_of_mem_pairUp hp hc htype

end Keyed

end EntryOrder

end TreeWatch
