import Mathlib.Data.List.Basic
import TreeWatch.Pattern.Glob

/-!
# Globs for a single text

A glob in which every character is escaped matches one text and no other
(`Glob.exists_parse_escape`). What it is compiled to spells this text out (`Regular.Spells`), so
that its derivatives spell out what is left of it.
-/

namespace TreeWatch.Pattern

namespace Regular

variable {α : Type} {a b r : Regular} {u v w : List Nat}

/-- An expression that is put together from the symbols of one text. -/
inductive Spells : Regular → List Nat → Prop where
  | empty : Spells empty []
  | only (c : Nat) : Spells (symbol (.only c)) [c]
  | seq {a b : Regular} {u v : List Nat} : Spells a u → Spells b v → Spells (seq a b) (u ++ v)

theorem Spells.nullable_iff (h : Spells r w) (s : Surroundings) :
    r.nullable s = true ↔ w = [] := by
  induction h with
  | empty => simp [nullable]
  | only c => simp [nullable]
  | seq _ _ iha ihb => simp [nullable, iha, ihb]

theorem Spells.followedBy (ha : Spells a u) (hb : Spells b v) :
    Spells (followedBy a b) (u ++ v) := by
  cases ha with
  | empty => exact hb
  | only c => exact .seq (.only c) hb
  | seq ha ha' => exact .seq (.seq ha ha') hb

theorem Spells.derivatives_of_nil (h : Spells r []) (s : Surroundings) (c : Nat) :
    r.derivatives s c = [] := by
  generalize hw : [] = w at h
  induction h with
  | empty => rfl
  | only c => simp at hw
  | seq _ _ iha ihb =>
      obtain ⟨hu, hv⟩ := List.append_eq_nil_iff.1 hw.symm
      simp [derivatives, iha hu.symm, ihb hv.symm]

theorem contains_only (b c : Nat) : (CharSet.only b).contains c = true ↔ c = b := by
  simp only [CharSet.only, CharSet.contains, Bool.and_eq_true, decide_eq_true_eq]
  omega

/-- What may follow the first symbol of a text spells out the rest of the text. -/
theorem Spells.exists_derivatives_eq {c : Nat} (h : Spells r (c :: w)) :
    ∃ r', Spells r' w ∧ ∀ s d, r.derivatives s d = if d = c then [r'] else [] := by
  generalize hw : c :: w = text at h
  induction h generalizing w with
  | empty => simp at hw
  | only b =>
      obtain ⟨rfl, rfl⟩ := List.cons.inj hw
      refine ⟨.empty, .empty, fun s d => ?_⟩
      simp only [derivatives, contains_only]
  | @seq a b u v ha hb iha ihb =>
      cases u with
      | nil =>
          obtain ⟨r', hr', hd⟩ := ihb hw
          refine ⟨r', hr', fun s d => ?_⟩
          simp [derivatives, ha.derivatives_of_nil, (ha.nullable_iff s).2 rfl, hd]
      | cons c' u =>
          obtain ⟨rfl, rfl⟩ := List.cons.inj hw
          obtain ⟨a', ha', hd⟩ := iha rfl
          refine ⟨_, ha'.followedBy hb, fun s d => ?_⟩
          have hnull : ¬ a.nullable s = true := mt (ha.nullable_iff s).1 (List.cons_ne_nil c u)
          rw [derivatives, if_neg hnull, hd]
          split <;> rfl

theorem matchesAll_nil (before : Option Nat) (text : List Nat) :
    matchesAll [] before text = false := by
  induction text generalizing before with
  | nil => rfl
  | cons c text ih => exact ih (some c)

theorem Spells.matchesAll_iff (h : Spells r w) (before : Option Nat) (text : List Nat) :
    matchesAll [r] before text = true ↔ text = w := by
  induction text generalizing r w before with
  | nil => simp [matchesAll, h.nullable_iff, eq_comm]
  | cons c text ih =>
      cases w with
      | nil => simp [matchesAll, h.derivatives_of_nil, matchesAll_nil]
      | cons d w =>
          obtain ⟨r', hr', hd⟩ := h.exists_derivatives_eq
          by_cases hc : c = d
          · subst hc
            simp [matchesAll, hd, List.eraseDups_cons, ih hr']
          · simp [matchesAll, hd, hc, matchesAll_nil]

theorem Spells.isMatch_iff (h : Spells r w) (text : List Nat) :
    r.isMatch text = true ↔ text = w :=
  h.matchesAll_iff none text

theorem spells_seqAll {f : α → Regular} {g : α → List Nat} (h : ∀ x, Spells (f x) (g x))
    (xs : List α) : Spells (seqAll (xs.map f)) (xs.flatMap g) := by
  induction xs with
  | nil => exact .empty
  | cons x xs ih => exact .seq (h x) ih

end Regular

open GlobToken in
theorem Glob.spells_literals {o : GlobOptions} (ho : o.ignoreCase = false) (cs : List Char) :
    (regularOf o (cs.map .literal)).Spells (cs.flatMap bytesOf) := by
  have hbyte (b : Nat) : (byte o b).Spells [b] := by
    rw [byte, ho]
    exact .only b
  have hchar (c : Char) : (Regular.seqAll ((bytesOf c).map (byte o))).Spells (bytesOf c) := by
    simpa using Regular.spells_seqAll hbyte (bytesOf c)
  have hregulars : GlobToken.regular?.tokenRegulars o (cs.map .literal)
      = cs.map fun c => Regular.seqAll ((bytesOf c).map (byte o)) := by
    induction cs with
    | nil => rfl
    | cons c cs ih => simp [GlobToken.regular?.tokenRegulars, GlobToken.regular?, ih]
  have hregular : regularOf o (cs.map .literal)
      = Regular.seqAll (cs.map fun c => Regular.seqAll ((bytesOf c).map (byte o))) := by
    rw [regularOf, hregulars]
    cases cs <;> simp
  rw [hregular]
  exact Regular.spells_seqAll hchar cs

namespace GlobReading

theorem readParts_escaped (r : GlobReading) (before : Option Char) (cs : List Char) :
    readParts r before (cs.flatMap fun c => ['\\', c])
      = .ok { r with tokens := (cs.map .literal).reverse ++ r.tokens } := by
  induction cs generalizing r before with
  | nil => simp [readParts]
  | cons c cs ih =>
      have hstep : readParts r before ('\\' :: c :: cs.flatMap fun c => ['\\', c])
          = readParts (r.push (.literal c)) (some c) (cs.flatMap fun c => ['\\', c]) := by
        rw [readParts]
      rw [List.flatMap_cons]
      simp [hstep, ih, push]

end GlobReading

namespace Glob

def escape (text : String) : String :=
  String.ofList (text.toList.flatMap fun c => ['\\', c])

theorem ofText_escape (text : String) :
    GlobReading.ofText (escape text) = .ok (text.toList.map .literal) := by
  rw [GlobReading.ofText, escape, String.toList_ofList, GlobReading.readParts_escaped]
  simp [bind, Except.bind, pure, Except.pure]

theorem bytesOfText_injective {s t : String} (h : bytesOfText s = bytesOfText t) : s = t := by
  have hbytes (s : String) :
      bytesOfText s = (s.toList.flatMap String.utf8EncodeChar).map UInt8.toNat := by
    rw [List.map_flatMap]
    rfl
  rw [hbytes, hbytes] at h
  have hencoded := List.map_injective_iff.2 (fun _ _ => UInt8.toNat_inj.1) h
  rw [← String.toByteArray_inj, ← String.utf8Encode_toList, ← String.utf8Encode_toList,
    List.utf8Encode, hencoded, List.utf8Encode]

theorem exists_parse_escape {o : GlobOptions} (ho : o.ignoreCase = false) (text : String) :
    ∃ g, parse o (escape text) = .ok g ∧ ∀ other, g.isMatch other = true ↔ other = text := by
  refine ⟨⟨escape text, regularOf o (text.toList.map .literal)⟩, ?_, fun other => ?_⟩
  · rw [parse, ofText_escape]
  · rw [isMatch, (spells_literals ho text.toList).isMatch_iff]
    exact ⟨fun h => bytesOfText_injective h, fun h => by rw [h]; rfl⟩

end Glob

end TreeWatch.Pattern
