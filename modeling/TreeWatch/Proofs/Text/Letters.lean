import Mathlib
import TreeWatch.Proofs.Text.Lowercase

/-!
# Words of plain letters in any case

Some letters beyond `A` to `Z` have a plain letter as their lower-case form, such as the sign for
kelvin. None of them comes to `h`, `m` or `s` (`partnerIn_lowerRuns`), so that a text becomes a word
of these in lower case just if it is the word in plain letters of any case (`lowerChars_eq_iff`).
-/

namespace TreeWatch.Text

variable {before after cs ws rest : List Char} {c w : Char} {n : ℕ}

/-- A plain letter that no letter other than its own upper-case form comes to in lower case. -/
def IsSteady (w : Char) : Prop := w = 'h' ∨ w = 'm' ∨ w = 's'

instance (w : Char) : Decidable (IsSteady w) :=
  inferInstanceAs (Decidable (w = 'h' ∨ w = 'm' ∨ w = 's'))

theorem IsSteady.isLower (h : IsSteady w) : w.isLower = true := by
  rcases h with rfl | rfl | rfl <;> rfl

theorem IsSteady.toNat_eq (h : IsSteady w) : w.toNat = w.toUpper.toNat + 32 := by
  rcases h with rfl | rfl | rfl <;> rfl

theorem toLower_eq_iff (h : w.isLower = true) : c.toLower = w ↔ c = w ∨ c = w.toUpper := by
  have hself : w.toLower = w := Char.toLower_eq_of_not_isUpper (Char.not_isUpper_of_isLower h)
  constructor
  · rintro rfl
    by_cases hc : c.isUpper = true
    · right
      rw [Char.toUpper_toLower_eq_toUpper,
        Char.toUpper_eq_of_not_isLower (Char.not_isLower_of_isUpper hc)]
    · left
      exact (Char.toLower_eq_of_not_isUpper hc).symm
  · rintro (rfl | rfl)
    · exact hself
    · rw [Char.toLower_toUpper_eq_toLower, hself]

/-! ## Letters in lower case -/

/-- Of all runs of letters only the one of the plain letters comes to a steady letter. -/
theorem shift_of_mem_lowerRuns {r : CaseRun} (hr : r ∈ lowerRuns) (hw : IsSteady w) :
    r.shift = 32 ∨ (w.toNat : ℤ) < r.first + r.shift ∨ r.last + r.shift < (w.toNat : ℤ) := by
  have hruns : ∀ r ∈ lowerRuns, ∀ n ∈ ['h'.toNat, 'm'.toNat, 's'.toNat],
      r.shift = 32 ∨ (n : ℤ) < r.first + r.shift ∨ r.last + r.shift < (n : ℤ) := by
    decide +kernel
  refine hruns r hr w.toNat ?_
  rcases hw with rfl | rfl | rfl <;> decide

theorem partnerIn_lowerRuns (hw : IsSteady w) (h : partnerIn lowerRuns n = w.toNat) :
    n = w.toNat ∨ n = w.toUpper.toNat := by
  rw [partnerIn] at h
  split at h
  · rename_i r hr
    have hcontains : r.contains n = true := by simpa using List.find?_some hr
    have hrange : r.first ≤ n ∧ n ≤ r.last := by
      simp only [CaseRun.contains, Bool.and_eq_true, decide_eq_true_eq] at hcontains
      exact hcontains.1
    have hshift := shift_of_mem_lowerRuns (List.mem_of_find?_eq_some hr) hw
    have hletter := hw.toNat_eq
    rw [CaseRun.partner] at h
    omega
  · exact .inl h

theorem lowerChar_of_toLower (hw : IsSteady w) (h : c.toLower = w) : lowerChar c = [w] := by
  have hletters : lowerChar w = [w] ∧ lowerChar w.toUpper = [w] := by
    rcases hw with rfl | rfl | rfl <;> decide +kernel
  rcases (toLower_eq_iff hw.isLower).1 h with rfl | rfl
  · exact hletters.1
  · exact hletters.2

theorem toLower_of_lowerChar (hw : IsSteady w) (h : lowerChar c = w :: rest) :
    c.toLower = w ∧ rest = [] := by
  have hletter := hw.toNat_eq
  rw [toLower_eq_iff hw.isLower]
  rw [lowerChar] at h
  split at h
  · obtain ⟨rfl, rfl⟩ := List.cons.inj h
    exact ⟨.inl rfl, rfl⟩
  · split at h
    · obtain ⟨rfl, -⟩ := List.cons.inj h
      exact absurd hw (by decide)
    · obtain ⟨hchar, rfl⟩ := List.cons.inj h
      have hvalue := congrArg Char.toNat hchar
      rw [Char.toNat_ofNat] at hvalue
      split at hvalue
      · refine ⟨(partnerIn_lowerRuns hw hvalue).imp ?_ ?_, rfl⟩ <;> exact Char.toNat_inj.1
      · omega

/-- Only a letter itself or its upper-case form becomes a steady letter, and it becomes no more than
that. -/
theorem lowerAt_eq_cons_iff (hw : IsSteady w) :
    lowerAt before c after = w :: rest ↔ c.toLower = w ∧ rest = [] := by
  by_cases hc : c = 'Σ'
  · subst hc
    have hsteady : ∀ d, ¬ IsSteady d → d ≠ w := fun d hd heq => hd (heq ▸ hw)
    have hsigma : 'Σ'.toLower ≠ w := hsteady _ (by decide)
    have hforms : (if endsWord before after then 'ς' else 'σ') ≠ w := by
      split <;> exact hsteady _ (by decide)
    rw [lowerAt_sigma, List.cons.injEq]
    exact iff_of_false (fun h => hforms h.1) fun h => hsigma h.1
  · rw [lowerAt_of_ne_sigma hc]
    refine ⟨toLower_of_lowerChar hw, ?_⟩
    rintro ⟨h, rfl⟩
    exact lowerChar_of_toLower hw h

/-! ## Words in lower case -/

theorem lowerAt_ne_nil (before : List Char) (c : Char) (after : List Char) :
    lowerAt before c after ≠ [] := by
  rw [lowerAt]
  split
  · split <;> exact List.cons_ne_nil _ _
  · rw [lowerChar]
    split
    · exact List.cons_ne_nil _ _
    · split <;> exact List.cons_ne_nil _ _

theorem lowerFrom_eq_iff (hws : ∀ w ∈ ws, IsSteady w) :
    lowerFrom before cs = ws ↔ cs.map Char.toLower = ws := by
  induction cs generalizing before ws with
  | nil => rfl
  | cons c cs ih =>
      rw [lowerFrom, List.map_cons]
      cases ws with
      | nil => simp [lowerAt_ne_nil]
      | cons w ws =>
          obtain ⟨hw, hrest⟩ := List.forall_mem_cons.1 hws
          constructor
          · intro h
            obtain ⟨d, ds, hd⟩ := List.exists_cons_of_ne_nil (lowerAt_ne_nil before c cs)
            rw [hd, List.cons_append] at h
            obtain ⟨rfl, htail⟩ := List.cons.inj h
            obtain ⟨hc, rfl⟩ := (lowerAt_eq_cons_iff hw).1 hd
            rw [List.nil_append] at htail
            rw [hc, (ih hrest).1 htail]
          · intro h
            obtain ⟨hc, htail⟩ := List.cons.inj h
            rw [(lowerAt_eq_cons_iff hw).2 ⟨hc, rfl⟩, (ih hrest).2 htail, List.singleton_append]

/-- A text becomes a word of steady letters just if it is the word in plain letters of any case. -/
theorem lowerChars_eq_iff (hws : ∀ w ∈ ws, IsSteady w) :
    lowerChars cs = ws ↔ cs.map Char.toLower = ws :=
  lowerFrom_eq_iff hws

end TreeWatch.Text
