import TreeWatch.Filter.Basic

/-!
# Filters by signature

Such a filter looks at the recorded length, goes to an offset and reads as many bytes as the
signature has. The recorded length may be wrong, the length that is needed stays at the largest one,
and a file system may refuse an offset (`OpenFile.seek`). A file that has the signature ends below
all these limits, so that none of them shows: the filter accepts just the regular files that are
recorded to be long enough and have the signature at the offset (`accepts_ofSignature`).
-/

namespace TreeWatch

namespace OpenFile

variable {f : OpenFile} {reaches : UInt64 → Bool} {offset : UInt64} {count : Nat}
  {found : List UInt8}

theorem seek_eq : f.seek reaches offset =
    if offset.toNat < offsetLimit ∨ reaches offset = true then some ⟨f.bytes, offset.toNat⟩
    else none := by
  simp only [seek, Bool.or_eq_true, decide_eq_true_eq]

theorem readExact_eq_some_iff : f.readExact count = some found ↔
    found.length = count ∧ found <+: f.bytes.drop f.position := by
  have htake : ((f.bytes.drop f.position).take count).length ≤ count := List.length_take_le _ _
  rw [readExact, Option.ite_none_left_eq_some, Option.some.injEq, Nat.not_lt]
  constructor
  · rintro ⟨hlength, rfl⟩
    exact ⟨Nat.le_antisymm htake hlength, List.take_prefix _ _⟩
  · rintro ⟨rfl, hprefix⟩
    rw [← List.prefix_iff_eq_take.1 hprefix]
    exact ⟨Nat.le_refl _, rfl⟩

end OpenFile

namespace Filter

open OpenFile (offsetLimit)

variable {contents : Contents} {path : Path} {signature bytes : List UInt8} {offset : UInt64}
  {reaches : UInt64 → Bool}

/-- What is read at an offset that can be gone to are the bytes of the signature. -/
theorem readsSignature_iff : readsSignature reaches signature offset ⟨bytes, 0⟩ = true ↔
    (offset.toNat < offsetLimit ∨ reaches offset = true) ∧
      signature <+: bytes.drop offset.toNat := by
  rw [readsSignature, OpenFile.seek_eq]
  by_cases hreached : offset.toNat < offsetLimit ∨ reaches offset = true
  · rw [if_pos hreached, Option.bind_some, and_iff_right hreached]
    cases hread : OpenFile.readExact signature.length ⟨bytes, offset.toNat⟩ with
    | none =>
        have hends : ¬ signature <+: bytes.drop offset.toNat := fun hprefix => by
          have hfound := OpenFile.readExact_eq_some_iff (f := ⟨bytes, offset.toNat⟩).2 ⟨rfl, hprefix⟩
          rw [hread] at hfound
          contradiction
        simp [hends]
    | some found =>
        obtain ⟨hlength, hfound⟩ := OpenFile.readExact_eq_some_iff.1 hread
        rw [beq_iff_eq]
        constructor
        · rintro rfl
          exact hfound
        · intro hprefix
          refine (List.prefix_of_prefix_length_le hfound hprefix ?_).eq_of_length hlength
          exact Nat.le_of_eq hlength
  · rw [if_neg hreached, Option.bind_none]
    simp only [Bool.false_eq_true, hreached, false_and]

theorem add_length_le_of_isPrefix (hne : signature ≠ [])
    (h : signature <+: bytes.drop offset.toNat) :
    offset.toNat + signature.length ≤ bytes.length := by
  have hpos : 0 < signature.length := List.length_pos_iff.2 hne
  have hle := h.length_le
  rw [List.length_drop] at hle
  omega

/-- A recorded length that is not refused is long enough, unless the needed length stayed at the
largest one. -/
theorem neededLength_le_iff (h : offset.toNat + signature.length < UInt64.size) (n : UInt64) :
    neededLength signature offset ≤ n.toNat ↔ offset.toNat + signature.length ≤ n.toNat := by
  rw [neededLength]
  omega

/-- Whatever offsets from the limit on a file system lets go to, a regular file holds a signature just
if it is recorded to be long enough and has the signature at the offset. -/
theorem holdsSignature_iff (reaches : UInt64 → Bool) (offset : UInt64) (a : Attributes)
    (hne : signature ≠ []) (hbytes : contents path = some bytes)
    (hlimit : bytes.length < offsetLimit) :
    holdsSignature reaches contents signature offset path a = true ↔
      a.isDirectory = false ∧ a.isLink = false ∧
      offset.toNat + signature.length ≤ a.length.toNat ∧
      signature <+: bytes.drop offset.toNat := by
  have hsize : offsetLimit < UInt64.size := by decide
  rw [holdsSignature, hbytes]
  by_cases hprefix : signature <+: bytes.drop offset.toNat
  · -- the signature lies below all limits
    have hend := add_length_le_of_isPrefix hne hprefix
    have hreads : readsSignature reaches signature offset ⟨bytes, 0⟩ = true :=
      readsSignature_iff.2 ⟨.inl (by omega), hprefix⟩
    have hneeded := neededLength_le_iff (Nat.lt_of_le_of_lt hend (Nat.lt_trans hlimit hsize)) a.length
    simp [hreads, hprefix, ← hneeded, and_assoc]
  · have hreads : readsSignature reaches signature offset ⟨bytes, 0⟩ = false :=
      Bool.eq_false_iff.2 fun h => hprefix (readsSignature_iff.1 h).2
    simp [hreads, hprefix]

/-- A filter can be made for each signature of at least one byte. It accepts a regular file that can
be read just if the file is recorded to be long enough and has the signature at the offset. This does
not depend on whether the file system lets go to offsets from the limit on. -/
theorem accepts_ofSignature (signature : List UInt8) (hne : signature ≠ []) (offset : UInt64) :
    ∃ f, ofSignature signature offset = .ok f ∧
      ∀ (contents : Contents) (path : Path) (bytes : List UInt8) (a : Attributes),
        contents path = some bytes → bytes.length < offsetLimit →
        (f.accepts contents path a = true ↔
          a.isDirectory = false ∧ a.isLink = false ∧
          offset.toNat + signature.length ≤ a.length.toNat ∧
          signature <+: bytes.drop offset.toNat) ∧
        ∀ reaches, holdsSignature reaches contents signature offset path a
          = f.accepts contents path a := by
  have hok : ofSignature signature offset = .ok (magic signature offset) := by
    rw [ofSignature, List.isEmpty_eq_false_iff.2 hne]
    rfl
  refine ⟨_, hok, fun contents path bytes a hbytes hlimit => ?_⟩
  have hiff (reaches : UInt64 → Bool) := holdsSignature_iff reaches offset a hne hbytes hlimit
  refine ⟨hiff OpenFile.nowhere, fun reaches => ?_⟩
  exact Bool.eq_iff_iff.2 ((hiff reaches).trans (hiff OpenFile.nowhere).symm)

/-- A file of four bytes with a signature in the middle that was recorded when it was longer. -/
theorem accepts_ofSignature_middle :
    [0x50, 0x4b] ≠ ([] : List UInt8) ∧ ∃ f, ofSignature [0x50, 0x4b] 1 = .ok f ∧
      [0x00, 0x50, 0x4b, 0x03].length < offsetLimit ∧
      f.accepts (fun _ => some [0x00, 0x50, 0x4b, 0x03]) ⟨"/f"⟩ (.file 9 .epoch) = true := by
  obtain ⟨f, hf, haccepts⟩ := accepts_ofSignature [0x50, 0x4b] (by decide) 1
  obtain ⟨hiff, _⟩ := haccepts (fun _ => some [0x00, 0x50, 0x4b, 0x03]) ⟨"/f"⟩
    [0x00, 0x50, 0x4b, 0x03] (.file 9 .epoch) rfl (by decide)
  exact ⟨by decide, f, hf, by decide, hiff.2 (by decide)⟩

/-- At the largest offset the needed length stays at the largest one, and the file ends before. -/
example : (magic [0x50] 18446744073709551615).accepts (fun _ => some [0x50]) ⟨"/f"⟩
    (.file 18446744073709551615 .epoch) = false := by
  decide

end Filter

end TreeWatch
