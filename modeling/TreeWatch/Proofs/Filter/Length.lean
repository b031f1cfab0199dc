import TreeWatch.Filter.Basic

/-!
# Filters by length

A range of lengths is a least length together with a limit that lengths have to stay below, and this
limit is the length after the most. As there is none after the largest length, a range takes in both
of its ends and all between them, except that nothing of the largest length is in any range
(`accepts_sizeRange_iff`).
-/

namespace TreeWatch

namespace Filter

variable {contents : Contents} {path : Path} {a : Attributes} {f g : Filter}
  {limit least most n m : UInt64}

theorem accepts_both_iff : (both f g).accepts contents path a = true ↔
    f.accepts contents path a = true ∧ g.accepts contents path a = true := by
  simp [both, accepts, accepts.acceptsAll]

theorem accepts_atLeast_iff :
    (atLeast limit).accepts contents path a = true ↔ limit ≤ a.length := by
  simp [atLeast, accepts]

theorem accepts_smallerThan_iff :
    (smallerThan limit).accepts contents path a = true ↔ a.length < limit := by
  simp [smallerThan, accepts]

theorem toNat_nextLength (n : UInt64) :
    (nextLength n).toNat = min (n.toNat + 1) (UInt64.size - 1) := by
  have hn : n.toNat < 2 ^ 64 := n.toNat_lt
  have hlargest : (UInt64.ofNat (UInt64.size - 1)).toNat = 2 ^ 64 - 1 := rfl
  have hsize : UInt64.size = 2 ^ 64 := rfl
  rw [nextLength]
  split
  · rename_i h
    rw [h, hlargest, hsize]
    omega
  · rename_i h
    have hne : n.toNat ≠ 2 ^ 64 - 1 := fun heq => h (UInt64.toNat_inj.1 (heq.trans hlargest.symm))
    rw [UInt64.toNat_add, hsize, UInt64.toNat_one]
    omega

theorem lt_nextLength_iff : n < nextLength m ↔ n ≤ m ∧ n.toNat ≠ UInt64.size - 1 := by
  have hn : n.toNat < 2 ^ 64 := n.toNat_lt
  have hsize : UInt64.size = 2 ^ 64 := rfl
  rw [UInt64.lt_iff_toNat_lt, UInt64.le_iff_toNat_le, toNat_nextLength]
  omega

/-- A range of lengths takes in both of its ends and all between them, but never the largest
length. -/
theorem accepts_sizeRange_iff (contents : Contents) (least most : UInt64) (path : Path)
    (a : Attributes) : (sizeRange least most).accepts contents path a = true ↔
      least ≤ a.length ∧ a.length ≤ most ∧ a.length.toNat ≠ UInt64.size - 1 := by
  rw [sizeRange, accepts_both_iff, accepts_atLeast_iff, accepts_smallerThan_iff, lt_nextLength_iff]

/-- A file of the largest length is not in the range of all lengths. -/
theorem sizeRange_misses_largest :
    let a := Attributes.file 18446744073709551615 .epoch
    0 ≤ a.length ∧ a.length ≤ 18446744073709551615 ∧
      (sizeRange 0 18446744073709551615).accepts (fun _ => none) ⟨"/f"⟩ a = false := by
  decide +kernel

end Filter

end TreeWatch
