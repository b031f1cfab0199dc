import Mathlib.Data.List.Basic
import TreeWatch.Text.Lowercase

/-!
# Lower case and the parts of a text

Letters are put in lower case one by one, but for the capital sigma, whose form depends on the
characters around it. So what a part of a text becomes depends on what is around the part only where
it holds a capital sigma (`lowerBetween_eq_iff`), and the start or the end of a text becomes the
start or the end of its lower-case form unless it was cut off next to such a sigma
(`lowerChars_isPrefix_iff`, `lowerChars_isSuffix_iff`).
-/

namespace TreeWatch.Text

variable {before before' after after' as bs cs : List Char}

/-- Whether a word ends between the characters before a place (nearest first) and those after
it. -/
def endsWord (before after : List Char) : Bool := meetsCased before && !meetsCased after

theorem lowerAt_sigma (before after : List Char) :
    lowerAt before 'Σ' after = [if endsWord before after then 'ς' else 'σ'] := by
  rw [lowerAt, if_pos rfl, endsWord]
  split <;> rfl

theorem lowerAt_of_ne_sigma {c : Char} (h : c ≠ 'Σ') (before after : List Char) :
    lowerAt before c after = lowerChar c := by
  rw [lowerAt, if_neg h]

theorem length_lowerAt (c : Char) (before after before' after' : List Char) :
    (lowerAt before c after).length = (lowerAt before' c after').length := by
  by_cases h : c = 'Σ'
  · subst h
    rw [lowerAt_sigma, lowerAt_sigma]
    rfl
  · rw [lowerAt_of_ne_sigma h, lowerAt_of_ne_sigma h]

theorem lowerAt_eq_iff {c : Char} : lowerAt before c after = lowerAt before' c after' ↔
    (c = 'Σ' → endsWord before after = endsWord before' after') := by
  by_cases h : c = 'Σ'
  · subst h
    rw [lowerAt_sigma, lowerAt_sigma]
    cases endsWord before after <;> cases endsWord before' after' <;> simp
  · simp [lowerAt_of_ne_sigma h, h]

/-! ## Skipped characters -/

theorem meetsCased_of_skipped (h : ∀ c ∈ as, isCaseIgnorable c = true) (bs : List Char) :
    meetsCased (as ++ bs) = meetsCased bs := by
  induction as with
  | nil => rfl
  | cons a as ih =>
      obtain ⟨ha, has⟩ := List.forall_mem_cons.1 h
      rw [List.cons_append, meetsCased, if_pos ha, ih has]

theorem meetsCased_of_not_skipped (h : ¬ ∀ c ∈ as, isCaseIgnorable c = true) (bs : List Char) :
    meetsCased (as ++ bs) = meetsCased as := by
  induction as with
  | nil => simp at h
  | cons a as ih =>
      rw [List.cons_append, meetsCased, meetsCased]
      split
      · rename_i ha
        exact ih fun has => h (List.forall_mem_cons.2 ⟨ha, has⟩)
      · rfl

/-- More characters make a difference to what is met first only if all before them are skipped. -/
theorem meetsCased_append_ne_iff : meetsCased (as ++ bs) ≠ meetsCased as ↔
    (∀ c ∈ as, isCaseIgnorable c = true) ∧ meetsCased bs = true := by
  by_cases h : ∀ c ∈ as, isCaseIgnorable c = true
  · have hnone : meetsCased as = false := by
      simpa [meetsCased] using meetsCased_of_skipped h []
    rw [meetsCased_of_skipped h, hnone, Bool.ne_false_iff]
    exact ⟨fun hbs => ⟨h, hbs⟩, And.right⟩
  · rw [meetsCased_of_not_skipped h]
    exact ⟨fun hne => absurd rfl hne, fun hskipped => absurd hskipped.1 h⟩

/-- More characters after a place make a difference to whether a word ends there only if they go on
with it. -/
theorem endsWord_append_ne_iff : endsWord before (as ++ bs) ≠ endsWord before as ↔
    meetsCased before = true ∧ (∀ c ∈ as, isCaseIgnorable c = true) ∧ meetsCased bs = true := by
  rw [← meetsCased_append_ne_iff, endsWord, endsWord]
  cases meetsCased before <;> simp

/-- More characters before a place make a difference to whether a word ends there only if the word
begins in them. -/
theorem append_endsWord_ne_iff : endsWord (as ++ bs) after ≠ endsWord as after ↔
    (∀ c ∈ as, isCaseIgnorable c = true) ∧ meetsCased after = false ∧ meetsCased bs = true := by
  rw [and_left_comm, ← meetsCased_append_ne_iff, endsWord, endsWord]
  cases meetsCased after <;> simp

/-! ## A part of a text -/

def lowerBetween (before : List Char) : List Char → List Char → List Char
  | [], _ => []
  | c :: cs, after => lowerAt before c (cs ++ after) ++ lowerBetween (c :: before) cs after

theorem lowerFrom_append (before as bs : List Char) : lowerFrom before (as ++ bs)
    = lowerBetween before as bs ++ lowerFrom (as.reverse ++ before) bs := by
  induction as generalizing before with
  | nil => rfl
  | cons a as ih => simp [lowerFrom, lowerBetween, ih]

theorem lowerFrom_eq_lowerBetween (before cs : List Char) :
    lowerFrom before cs = lowerBetween before cs [] := by
  simpa [lowerFrom] using lowerFrom_append before cs []

theorem length_lowerBetween (cs before after before' after' : List Char) :
    (lowerBetween before cs after).length = (lowerBetween before' cs after').length := by
  induction cs generalizing before before' with
  | nil => rfl
  | cons c cs ih =>
      rw [lowerBetween, lowerBetween, List.length_append, List.length_append, ih (c :: before),
        length_lowerAt c before]

/-- A part of a text becomes the same in other surroundings if each capital sigma in it ends a word
in both or in neither. -/
theorem lowerBetween_eq_iff : lowerBetween before cs after = lowerBetween before' cs after' ↔
    ∀ as bs, cs = as ++ 'Σ' :: bs →
      endsWord (as.reverse ++ before) (bs ++ after)
        = endsWord (as.reverse ++ before') (bs ++ after') := by
  induction cs generalizing before before' with
  | nil => simp [lowerBetween]
  | cons c cs ih =>
      have happend : lowerBetween before (c :: cs) after = lowerBetween before' (c :: cs) after' ↔
          lowerAt before c (cs ++ after) = lowerAt before' c (cs ++ after') ∧
            lowerBetween (c :: before) cs after = lowerBetween (c :: before') cs after' := by
        rw [lowerBetween, lowerBetween]
        refine ⟨fun h => List.append_inj h (length_lowerAt c _ _ _ _), ?_⟩
        rintro ⟨hfirst, hrest⟩
        rw [hfirst, hrest]
      rw [happend, lowerAt_eq_iff, ih]
      constructor
      · rintro ⟨hfirst, hrest⟩ as bs heq
        cases as with
        | nil =>
            obtain ⟨rfl, rfl⟩ := List.cons.inj heq
            exact hfirst rfl
        | cons a as =>
            obtain ⟨rfl, rfl⟩ := List.cons.inj heq
            simpa using hrest as bs rfl
      · intro h
        refine ⟨fun hc => h [] cs (by rw [hc]; rfl), fun as bs heq => ?_⟩
        simpa using h (c :: as) bs (by rw [heq]; rfl)

/-- A word is cut off after a capital sigma: this is the last character at the start of a text that
is not skipped, it comes after a letter, and the first character of the rest that is not skipped is
a letter. -/
def CutAfterSigma (start rest : List Char) : Prop :=
  ∃ as skipped, start = as ++ 'Σ' :: skipped ∧ meetsCased as.reverse = true ∧
    (∀ c ∈ skipped, isCaseIgnorable c = true) ∧ meetsCased rest = true

/-- A word is cut off before a capital sigma: this is the first character at the end of a text that
is not skipped, no letter comes after it, and the last character of the rest that is not skipped is
a letter. -/
def CutBeforeSigma (rest ending : List Char) : Prop :=
  ∃ skipped bs, ending = skipped ++ 'Σ' :: bs ∧ (∀ c ∈ skipped, isCaseIgnorable c = true) ∧
    meetsCased bs = false ∧ meetsCased rest.reverse = true

/-- The start of a text becomes the start of its lower-case form unless a word is cut off after a
capital sigma. -/
theorem lowerChars_isPrefix_iff (cs ds : List Char) :
    lowerChars cs <+: lowerChars (cs ++ ds) ↔ ¬ CutAfterSigma cs ds := by
  have hsame : lowerChars cs <+: lowerChars (cs ++ ds) ↔
      lowerBetween [] cs ds = lowerBetween [] cs [] := by
    rw [lowerChars, lowerChars, lowerFrom_append, lowerFrom_eq_lowerBetween]
    constructor
    · rintro ⟨rest, hrest⟩
      exact (List.append_inj hrest (length_lowerBetween cs _ _ _ _)).1.symm
    · intro heq
      rw [heq]
      exact List.prefix_append _ _
  rw [hsame, lowerBetween_eq_iff]
  constructor
  · rintro h ⟨as, skipped, hcs, hcut⟩
    exact endsWord_append_ne_iff.2 hcut (by simpa using h as skipped hcs)
  · intro h as bs hcs
    by_contra hne
    exact h ⟨as, bs, hcs, endsWord_append_ne_iff.1 (by simpa using hne)⟩

/-- The end of a text becomes the end of its lower-case form unless a word is cut off before a
capital sigma. -/
theorem lowerChars_isSuffix_iff (ds cs : List Char) :
    lowerChars cs <:+ lowerChars (ds ++ cs) ↔ ¬ CutBeforeSigma ds cs := by
  have hsame : lowerChars cs <:+ lowerChars (ds ++ cs) ↔
      lowerBetween ds.reverse cs [] = lowerBetween [] cs [] := by
    rw [lowerChars, lowerChars, lowerFrom_append, lowerFrom_eq_lowerBetween,
      lowerFrom_eq_lowerBetween, List.append_nil]
    constructor
    · rintro ⟨rest, hrest⟩
      exact (List.append_inj' hrest (length_lowerBetween cs _ _ _ _)).2.symm
    · intro heq
      rw [heq]
      exact List.suffix_append _ _
  rw [hsame, lowerBetween_eq_iff]
  constructor
  · rintro h ⟨skipped, bs, hcs, hskipped, hcut⟩
    have heq : endsWord (skipped.reverse ++ ds.reverse) bs = endsWord skipped.reverse bs := by
      simpa using h skipped bs hcs
    exact append_endsWord_ne_iff.2 ⟨by simpa using hskipped, hcut⟩ heq
  · intro h as bs hcs
    by_contra hne
    have hne : endsWord (as.reverse ++ ds.reverse) bs ≠ endsWord as.reverse bs := by
      simpa using hne
    obtain ⟨hskipped, hcut⟩ := append_endsWord_ne_iff.1 hne
    exact h ⟨as, bs, hcs, by simpa using hskipped, hcut⟩

end TreeWatch.Text
