import MemoryCard.Bytes
import Mathlib.Algebra.Ring.Nat
import Mathlib.Data.List.Basic

/-! # Reading and overwriting buffers

A buffer is known by its size and its bytes. Numbers are told apart by their bytes, long ones are
made of shorter ones, and a slice is the list of the bytes that it covers.
-/

namespace MemoryCard

namespace Bytes

variable {b b' : Bytes} {pos : Nat}

theorem ext_byte (hsize : b.size = b'.size) (h : ∀ pos, b.byte pos = b'.byte pos) : b = b' := by
  refine ByteArray.ext (Array.ext hsize fun i hi hi' ↦ ?_)
  have hbyte := h i
  rw [byte, byte, dif_pos (show i < b.size from hi), dif_pos (show i < b'.size from hi')] at hbyte
  exact hbyte

theorem eq_toByteArray {bs : List UInt8} (h : b.all = bs) : b = bs.toByteArray :=
  ByteArray.ext (Array.toList_inj.1 (h.trans (all_toByteArray bs).symm))

theorem byte_of_size_le (h : b.size ≤ pos) : b.byte pos = 0 := dif_neg (Nat.not_lt.2 h)

theorem byte_fill_zero (n pos : Nat) : (fill n 0).byte pos = 0 := by
  rw [byte_eq, all_fill, List.getElem?_replicate]
  split <;> rfl

/-! ## Numbers -/

theorem number_lt (b : Bytes) (pos n : Nat) : b.number pos n < 256 ^ n := by
  induction n with
  | zero => exact Nat.one_pos
  | succ n ih =>
      have hbyte := (b.byte (pos + n)).toNat_lt
      rw [number, Nat.pow_succ]
      omega

/-- The first bytes of a number count for more than those behind them. -/
theorem number_add (b : Bytes) (pos m n : Nat) :
    b.number pos (m + n) = b.number pos m * 256 ^ n + b.number (pos + m) n := by
  induction n with
  | zero => simp [number]
  | succ n ih =>
      rw [← Nat.add_assoc, number, number, ih, Nat.pow_succ, Nat.add_assoc pos, Nat.add_mul,
        Nat.mul_assoc, Nat.add_assoc]

theorem toNat_u16 (b : Bytes) (pos : Nat) : (b.u16 pos).toNat = b.number pos 2 :=
  Nat.mod_eq_of_lt (b.number_lt pos 2)

theorem toNat_u32 (b : Bytes) (pos : Nat) : (b.u32 pos).toNat = b.number pos 4 :=
  Nat.mod_eq_of_lt (b.number_lt pos 4)

theorem toNat_u64 (b : Bytes) (pos : Nat) : (b.u64 pos).toNat = b.number pos 8 :=
  Nat.mod_eq_of_lt (b.number_lt pos 8)

theorem u16_eq (b : Bytes) (pos : Nat) :
    b.u16 pos = ((b.byte pos).toNat * 256 + (b.byte (pos + 1)).toNat).toUInt16 := by
  rw [u16, number, number, number, Nat.zero_mul, Nat.zero_add, Nat.add_zero]

/-! ## Slices -/

theorem getElem_slice (b : Bytes) (pos len : Nat) {i : Nat} (h : i < (b.slice pos len).length) :
    (b.slice pos len)[i] = b.byte (pos + i) := by
  have hlen : i < len ∧ pos + i < b.size := by
    rw [slice_eq, List.length_take, List.length_drop, length_all] at h
    omega
  simp only [slice_eq, List.getElem_take, List.getElem_drop]
  rw [byte, dif_pos hlen.2]
  rfl

theorem slice_cons (h : pos < b.size) (len : Nat) :
    b.slice pos (len + 1) = b.byte pos :: b.slice (pos + 1) len := by
  rw [slice_eq, slice_eq, List.drop_eq_getElem_cons (by rwa [length_all]), List.take_succ_cons]
  congr 1
  rw [byte, dif_pos h]
  rfl

theorem slice_extract (b : Bytes) {start stop pos len : Nat} (h : start + pos + len ≤ stop) :
    slice (b.extract start stop) pos len = b.slice (start + pos) len := by
  have hstop : start + (pos + len) ≤ stop := by omega
  simp only [slice, ByteArray.extract_extract, Nat.min_eq_left hstop, Nat.add_assoc]

theorem slice_congr {len : Nat} (hsize : b.size = b'.size)
    (h : ∀ i, pos ≤ i → i < pos + len → b.byte i = b'.byte i) :
    b.slice pos len = b'.slice pos len := by
  refine List.ext_getElem ?_ fun i hi hi' ↦ ?_
  · rw [slice_eq, slice_eq, List.length_take, List.length_take, List.length_drop, List.length_drop,
      length_all, length_all, hsize]
  · have hlen : i < len := by
      rw [slice_eq, List.length_take] at hi
      omega
    rw [getElem_slice, getElem_slice, h _ (by omega) (by omega)]

theorem all_append (b b' : Bytes) : all (b ++ b') = all b ++ all b' := by
  simp [all]

theorem all_extract (b : Bytes) (start len : Nat) :
    all (b.extract start (start + len)) = ((all b).drop start).take len :=
  b.slice_eq start len

/-- A slice that begins in the first of two rows goes on in the second one. -/
theorem take_drop_append {front back : List UInt8} {skip len : Nat} (h : skip ≤ front.length) :
    ((front ++ back).drop skip).take len =
      (front.drop skip).take (min (front.length - skip) len) ++
        back.take (len - min (front.length - skip) len) := by
  have hfront : (front.drop skip).take len =
      (front.drop skip).take (min (front.length - skip) len) := by
    rw [List.take_eq_take_iff, List.length_drop]
    omega
  have hback : len - (front.length - skip) = len - min (front.length - skip) len := by omega
  rw [List.drop_append_of_le_length h, List.take_append, List.length_drop, hfront, hback]

/-- A slice of a slice is a slice. -/
theorem take_drop_take_drop {bs : List UInt8} {start len n : Nat} (h : pos + n ≤ len) :
    (((bs.drop start).take len).drop pos).take n = (bs.drop (start + pos)).take n := by
  rw [List.drop_take, List.take_take, List.drop_drop, Nat.min_eq_left (by omega)]

theorem take_drop_slice {start len n : Nat} (h : pos + n ≤ len) :
    ((b.slice start len).drop pos).take n = b.slice (start + pos) n := by
  rw [slice_eq, slice_eq, take_drop_take_drop h]

/-! ## Overwriting -/

/-- Overwriting reaches as far as the patch does, and changes no byte anywhere else. -/
theorem byte_overwrite (b patch : Bytes) (pos i : Nat) (h : pos + patch.size ≤ b.size) :
    (b.overwrite pos patch).byte i =
      if pos ≤ i ∧ i < pos + patch.size then patch.byte (i - pos) else b.byte i := by
  have hpos : ((all b).take pos).length = pos := by
    rw [List.length_take, length_all]
    omega
  have hpatch : ((all patch).take (b.size - pos)) = all patch :=
    List.take_of_length_le (by rw [length_all]; omega)
  rw [byte_eq, byte_eq, byte_eq, all_overwrite, hpatch, List.append_assoc]
  by_cases hfront : i < pos
  · rw [if_neg (by omega), List.getElem?_append_left (by omega), List.getElem?_take_of_lt hfront]
  · rw [List.getElem?_append_right (by omega), hpos]
    by_cases hback : i < pos + patch.size
    · rw [if_pos (by omega), List.getElem?_append_left (by rw [length_all]; omega)]
    · rw [if_neg (by omega), List.getElem?_append_right (by rw [length_all]; omega), length_all,
        List.getElem?_drop]
      congr 2
      omega

/-- The buffers are the same but for the word at `pos`. -/
structure DifferAt (b b' : Bytes) (pos : Nat) : Prop where
  size : b'.size = b.size
  word : b'.u16 pos ≠ b.u16 pos
  others : ∀ i, i < pos ∨ pos + 2 ≤ i → b'.byte i = b.byte i

theorem DifferAt.u16_eq (h : DifferAt b b' pos) {i : Nat} (hi : i + 2 ≤ pos ∨ pos + 2 ≤ i) :
    b'.u16 i = b.u16 i := by
  rw [Bytes.u16_eq, Bytes.u16_eq, h.others i (by omega), h.others (i + 1) (by omega)]

end Bytes
end MemoryCard
