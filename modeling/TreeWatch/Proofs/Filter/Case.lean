import TreeWatch.Filter.Basic
import TreeWatch.Proofs.Text.Lowercase

/-!
# Names in any case

A name that is equal to a text is equal to it in any case. A name that starts or ends with a text
does so in any case too, unless the text takes a piece out of a word next to a capital sigma
(`startsWith_insensitive_iff`, `endsWith_insensitive_iff`): at the end of a word this letter has
another lower-case form. So filters that ignore case accept at least what they accept otherwise, but
for these texts (`Filter.accepts_insensitive`).
-/

namespace TreeWatch

namespace CaseSensitivity

variable {a b name start ending : String}

/-- A name goes on after its start in the middle of a word, next to a capital sigma. -/
def SplitsAtStart (name start : String) : Prop :=
  ∃ rest, name.toList = start.toList ++ rest ∧ Text.CutAfterSigma start.toList rest

/-- A name comes to its ending in the middle of a word, next to a capital sigma. -/
def SplitsAtEnding (name ending : String) : Prop :=
  ∃ rest, name.toList = rest ++ ending.toList ∧ Text.CutBeforeSigma rest ending.toList

theorem startsWith_sensitive :
    sensitive.startsWith name start = true ↔ start.toList <+: name.toList :=
  List.isPrefixOf_iff_prefix

theorem startsWith_insensitive : insensitive.startsWith name start = true ↔
    Text.lowerChars start.toList <+: Text.lowerChars name.toList := by
  rw [startsWith, List.isPrefixOf_iff_prefix]
  simp [fold, isSensitive, Text.lower]

theorem endsWith_sensitive :
    sensitive.endsWith name ending = true ↔ ending.toList <:+ name.toList :=
  List.isSuffixOf_iff_suffix

theorem endsWith_insensitive : insensitive.endsWith name ending = true ↔
    Text.lowerChars ending.toList <:+ Text.lowerChars name.toList := by
  rw [endsWith, List.isSuffixOf_iff_suffix]
  simp [fold, isSensitive, Text.lower]

theorem equals_insensitive_of_sensitive (h : sensitive.equals a b = true) :
    insensitive.equals a b = true := by
  have heq : a = b := by simpa [equals, order, fold, isSensitive] using h
  simp [heq, equals, order]

theorem startsWith_insensitive_iff (h : sensitive.startsWith name start = true) :
    insensitive.startsWith name start = true ↔ ¬ SplitsAtStart name start := by
  obtain ⟨rest, hrest⟩ := startsWith_sensitive.1 h
  rw [startsWith_insensitive, ← hrest, Text.lowerChars_isPrefix_iff, SplitsAtStart, ← hrest]
  simp

theorem endsWith_insensitive_iff (h : sensitive.endsWith name ending = true) :
    insensitive.endsWith name ending = true ↔ ¬ SplitsAtEnding name ending := by
  obtain ⟨rest, hrest⟩ := endsWith_sensitive.1 h
  rw [endsWith_insensitive, ← hrest, Text.lowerChars_isSuffix_iff, SplitsAtEnding, ← hrest]
  simp

end CaseSensitivity

namespace Filter

open CaseSensitivity (SplitsAtStart SplitsAtEnding)

/-- Either one of several texts passes a test, or each of them has the one fault that keeps it from
passing. -/
theorem any_or_forall_of_iff {values : List String} {has fault : String → Prop}
    {test : String → Bool} (h : ∀ v, has v → (test v = true ↔ ¬ fault v)) :
    values.any test = true ∨ ∀ v ∈ values, has v → fault v := by
  by_cases hfault : ∀ v ∈ values, has v → fault v
  · exact .inr hfault
  · push Not at hfault
    obtain ⟨v, hv, hhas, hwhole⟩ := hfault
    exact .inl (List.any_eq_true.2 ⟨v, hv, (h v hhas).2 hwhole⟩)

/-- In any case a filter by name, by start or by ending accepts what it accepts otherwise, unless a
word of the name is split next to a capital sigma by each start, or each ending, that the name
has. -/
theorem accepts_insensitive (contents : Contents) (values : List String) (path : Path)
    (a : Attributes) :
    ((name values .sensitive).accepts contents path a = true →
      (name values .insensitive).accepts contents path a = true) ∧
    ((starting values .sensitive).accepts contents path a = true →
      (starting values .insensitive).accepts contents path a = true ∨
        ∀ v ∈ values, CaseSensitivity.sensitive.startsWith path.baseName v = true →
          SplitsAtStart path.baseName v) ∧
    ((ending values .sensitive).accepts contents path a = true →
      (ending values .insensitive).accepts contents path a = true ∨
        ∀ v ∈ values, CaseSensitivity.sensitive.endsWith path.baseName v = true →
          SplitsAtEnding path.baseName v) ∧
    ∀ x y : String,
      (CaseSensitivity.sensitive.equals x y = true →
        CaseSensitivity.insensitive.equals x y = true) ∧
      (CaseSensitivity.sensitive.startsWith x y = true →
        (CaseSensitivity.insensitive.startsWith x y = true ↔ ¬ SplitsAtStart x y)) ∧
      (CaseSensitivity.sensitive.endsWith x y = true →
        (CaseSensitivity.insensitive.endsWith x y = true ↔ ¬ SplitsAtEnding x y)) := by
  refine ⟨fun h => ?_, fun _ => ?_, fun _ => ?_, fun x y => ?_⟩
  · obtain ⟨v, hv, heq⟩ := List.any_eq_true.1 h
    exact List.any_eq_true.2 ⟨v, hv, CaseSensitivity.equals_insensitive_of_sensitive heq⟩
  · exact any_or_forall_of_iff fun v => CaseSensitivity.startsWith_insensitive_iff
  · exact any_or_forall_of_iff fun v => CaseSensitivity.endsWith_insensitive_iff
  · exact ⟨CaseSensitivity.equals_insensitive_of_sensitive,
      CaseSensitivity.startsWith_insensitive_iff, CaseSensitivity.endsWith_insensitive_iff⟩

/-- A start that leaves the word whole, and one that splits it. -/
theorem accepts_insensitive_street :
    (starting ["ΟΔΟΣ"] .sensitive).accepts (fun _ => none) ⟨"/d/ΟΔΟΣ 1"⟩ (.file 1 .epoch) = true ∧
    ((starting ["ΟΔΟΣ"] .insensitive).accepts (fun _ => none) ⟨"/d/ΟΔΟΣ 1"⟩ (.file 1 .epoch)
        = true ∨
      ∀ v ∈ ["ΟΔΟΣ"], CaseSensitivity.sensitive.startsWith "ΟΔΟΣ 1" v = true →
        SplitsAtStart "ΟΔΟΣ 1" v) ∧
    ¬ SplitsAtStart "ΟΔΟΣ 1" "ΟΔΟΣ" ∧ SplitsAtStart "ΑΣΑ" "ΑΣ" ∧ SplitsAtEnding "ΑΣ" "Σ" := by
  have hname : (⟨"/d/ΟΔΟΣ 1"⟩ : Path).baseName = "ΟΔΟΣ 1" := by decide +kernel
  have haccepts : (starting ["ΟΔΟΣ"] .sensitive).accepts (fun _ => none) ⟨"/d/ΟΔΟΣ 1"⟩
      (.file 1 .epoch) = true := by decide +kernel
  obtain ⟨-, hstarting, -, htexts⟩ :=
    accepts_insensitive (fun _ => none) ["ΟΔΟΣ"] ⟨"/d/ΟΔΟΣ 1"⟩ (.file 1 .epoch)
  rw [hname] at hstarting
  refine ⟨haccepts, hstarting haccepts, ?_, ?_, ?_⟩
  · exact ((htexts "ΟΔΟΣ 1" "ΟΔΟΣ").2.1 (by decide +kernel)).1 (by decide +kernel)
  · have hsplit := (htexts "ΑΣΑ" "ΑΣ").2.1 (by decide +kernel)
    by_contra hwhole
    exact absurd (hsplit.2 hwhole) (by decide +kernel)
  · have hsplit := (htexts "ΑΣ" "Σ").2.2 (by decide +kernel)
    by_contra hwhole
    exact absurd (hsplit.2 hwhole) (by decide +kernel)

/-- In any case a start is lost that splits a word next to a capital sigma, and so is an ending. -/
theorem sigma_lost_in_any_case :
    (starting ["ΑΣ"] .sensitive).accepts (fun _ => none) ⟨"/d/ΑΣΑ"⟩ (.file 1 .epoch) = true ∧
    (starting ["ΑΣ"] .insensitive).accepts (fun _ => none) ⟨"/d/ΑΣΑ"⟩ (.file 1 .epoch) = false ∧
    (ending ["Σ"] .sensitive).accepts (fun _ => none) ⟨"/d/ΑΣ"⟩ (.file 1 .epoch) = true ∧
    (ending ["Σ"] .insensitive).accepts (fun _ => none) ⟨"/d/ΑΣ"⟩ (.file 1 .epoch) = false := by
  decide +kernel

end Filter

end TreeWatch
