import Mathlib.Algebra.Ring.Nat
import MemoryCard.Geometry

/-! # Block numbers and sizes

Data blocks in terms of numbers, and sizes that are powers of two.
-/

namespace MemoryCard

/-! ## Data blocks -/

theorem isDataBlock_iff {size block : UInt16} :
    isDataBlock size block = true ↔ 5 ≤ block.toNat ∧ block.toNat < size.toNat := by
  rw [isDataBlock, Bool.and_eq_true, decide_eq_true_iff, decide_eq_true_iff, UInt16.le_iff_toNat_le,
    UInt16.lt_iff_toNat_lt]
  rfl

/-- A card with data blocks has all system blocks. -/
theorem five_le_of_isDataBlock {size block : UInt16} (h : isDataBlock size block = true) :
    5 ≤ size.toNat := by
  obtain ⟨hsystem, hsize⟩ := isDataBlock_iff.1 h
  exact Nat.le_trans hsystem (Nat.le_of_lt hsize)

theorem toNat_dataBlocks (size : UInt16) : (dataBlocks size).toNat = size.toNat - 5 := by
  rw [dataBlocks]
  split
  · rename_i h
    rw [UInt16.toNat_sub_of_le _ _ h]
    rfl
  · rename_i h
    have hlt : size.toNat < 5 := UInt16.lt_iff_toNat_lt.1 (UInt16.not_le.1 h)
    simp only [UInt16.toNat_zero]
    omega

/-! ## Powers of two -/

variable {n k : Nat}

theorem isPowerOfTwo_iff : isPowerOfTwo n = true ↔ ∃ k, n = 2 ^ k := by
  rw [isPowerOfTwo, beq_iff_eq, Nat.one_shiftLeft]
  constructor
  · intro h
    exact ⟨_, h⟩
  · rintro ⟨k, rfl⟩
    rw [Nat.log2_two_pow]

/-- Powers of two divide those that are not smaller. -/
theorem dvd_of_isPowerOfTwo (h : isPowerOfTwo n = true) (hk : 2 ^ k ≤ n) : 2 ^ k ∣ n := by
  obtain ⟨m, rfl⟩ := isPowerOfTwo_iff.1 h
  exact Nat.pow_dvd_pow 2 ((Nat.pow_le_pow_iff_right (by decide)).1 hk)

/-- A length of at least one block with a part of a block behind it is no power of two. -/
theorem not_isPowerOfTwo {blocks rest : Nat} (hblocks : 0 < blocks) (hrest : 0 < rest)
    (hpart : rest < blockSize) : isPowerOfTwo (blockSize * blocks + rest) = false := by
  refine Bool.eq_false_iff.2 fun h ↦ ?_
  have hlong : 2 ^ 13 ≤ blockSize * blocks + rest :=
    Nat.le_trans (Nat.le_mul_of_pos_right _ hblocks) (Nat.le_add_right _ _)
  have hdvd : blockSize ∣ blockSize * blocks + rest := dvd_of_isPowerOfTwo h hlong
  rw [Nat.dvd_add_right (Nat.dvd_mul_right _ _)] at hdvd
  exact absurd (Nat.le_of_dvd hrest hdvd) (Nat.not_le.2 hpart)

end MemoryCard
