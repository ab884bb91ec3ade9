import MemoryCard.Proofs.Image

/-! # Lists of bytes in a buffer

What is written is a list of bytes, and it is read from the place in a buffer where that list
stands. The list is taken apart as it was put together, and each number or byte string is then read
from its own part.
-/

namespace MemoryCard

namespace Bytes

variable {b b' : Bytes} {pos pos' n : Nat} {v : UInt8} {bs bs' : List UInt8}

/-- The bytes `bs` stand in the buffer from `pos` on. -/
def Holds (b : Bytes) (pos : Nat) (bs : List UInt8) : Prop :=
  ∀ i (h : i < bs.length), b.byte (pos + i) = bs[i]

theorem holds_toByteArray (bs : List UInt8) : Holds bs.toByteArray 0 bs := fun i h ↦ by
  rw [byte_eq, all_toByteArray, Nat.zero_add, List.getElem?_eq_getElem h]
  rfl

theorem toByteArray_eq_iff (h : bs.length = b.size) : bs.toByteArray = b ↔ b.Holds 0 bs := by
  have hsize : bs.toByteArray.size = b.size := by rw [← length_all, all_toByteArray, h]
  constructor
  · rintro rfl
    exact holds_toByteArray bs
  · intro hholds
    refine ext_byte hsize fun i ↦ ?_
    by_cases hi : i < bs.length
    · have hleft := holds_toByteArray bs i hi
      have hright := hholds i hi
      rw [Nat.zero_add] at hleft hright
      rw [hleft, hright]
    · rw [byte_of_size_le (by omega), byte_of_size_le (by omega)]

theorem Holds.of_agree (h : b.Holds pos bs) (hagree : Agree bs.length b' pos' b pos) :
    b'.Holds pos' bs := fun i hi ↦ (hagree i hi).trans (h i hi)

/-! ## Taking lists apart -/

theorem holds_nil (b : Bytes) (pos : Nat) : b.Holds pos [] := fun i hi ↦
  absurd hi (Nat.not_lt_zero i)

theorem holds_cons : b.Holds pos (v :: bs) ↔ b.byte pos = v ∧ b.Holds (pos + 1) bs := by
  constructor
  · intro h
    refine ⟨h 0 (Nat.zero_lt_succ _), fun i hi ↦ ?_⟩
    rw [Nat.add_assoc, Nat.add_comm 1 i]
    exact h (i + 1) (Nat.succ_lt_succ hi)
  · rintro ⟨hhead, htail⟩ i hi
    cases i with
    | zero => exact hhead
    | succ i =>
        have hnext := htail i (Nat.lt_of_succ_lt_succ hi)
        rw [Nat.add_assoc, Nat.add_comm 1 i] at hnext
        exact hnext

theorem holds_append :
    b.Holds pos (bs ++ bs') ↔ b.Holds pos bs ∧ b.Holds (pos + bs.length) bs' := by
  induction bs generalizing pos with
  | nil => simp [Holds]
  | cons v rest ih =>
      rw [List.cons_append, holds_cons, holds_cons, ih, and_assoc, List.length_cons,
        Nat.add_assoc pos, Nat.add_comm 1]

/-- In a row of parts of the same width, each part stands where its number says. -/
theorem holds_flatMap {α : Type} {f : α → List UInt8} {l : List α} {width : Nat}
    (hwidth : ∀ x, (f x).length = width) : b.Holds pos (l.flatMap f) ↔
      ∀ i (h : i < l.length), b.Holds (pos + i * width) (f l[i]) := by
  induction l generalizing pos with
  | nil => simp [Holds]
  | cons x rest ih =>
      have hplace (i : Nat) : pos + width + i * width = pos + (i + 1) * width := by
        rw [Nat.succ_mul, Nat.add_comm (i * width), Nat.add_assoc]
      rw [List.flatMap_cons, holds_append, hwidth, ih]
      constructor
      · rintro ⟨hhead, htail⟩ i hi
        cases i with
        | zero =>
            rw [Nat.zero_mul]
            exact hhead
        | succ i =>
            rw [← hplace]
            exact htail i (Nat.lt_of_succ_lt_succ hi)
      · intro h
        have hhead := h 0 (Nat.zero_lt_succ _)
        rw [Nat.zero_mul] at hhead
        refine ⟨hhead, fun i hi ↦ ?_⟩
        rw [hplace]
        exact h (i + 1) (Nat.succ_lt_succ hi)

/-! ## Reading them -/

theorem Holds.slice_eq (h : b.Holds pos bs) (hsize : pos + bs.length ≤ b.size) :
    b.slice pos bs.length = bs := by
  refine List.ext_getElem (length_slice hsize) fun i hi hi' ↦ ?_
  rw [getElem_slice, h i hi']

theorem Holds.field_eq {w : Vector UInt8 n} (h : b.Holds pos w.toList) : b.field pos n = w := by
  ext i hi
  have hbyte := h i (by rwa [Vector.length_toList])
  rw [field, Vector.getElem_ofFn, hbyte, Vector.getElem_toList]

theorem Holds.number_eq {m : Nat} (h : b.Holds pos (bigEndian n m)) :
    b.number pos n = m % 256 ^ n := by
  induction n generalizing m with
  | zero => rw [number, Nat.pow_zero, Nat.mod_one]
  | succ n ih =>
      rw [bigEndian, holds_append, holds_cons, length_bigEndian] at h
      have hlast : (m.toUInt8).toNat = m % 256 := rfl
      rw [number, ih h.1, h.2.1, hlast, Nat.pow_succ', Nat.mod_mul, Nat.mul_comm, Nat.add_comm]

theorem Holds.u16_eq {w : UInt16} (h : b.Holds pos (bytes16 w)) : b.u16 pos = w := by
  rw [← UInt16.toNat_inj, toNat_u16, Holds.number_eq h]
  exact Nat.mod_eq_of_lt w.toNat_lt

theorem Holds.u32_eq {w : UInt32} (h : b.Holds pos (bytes32 w)) : b.u32 pos = w := by
  rw [← UInt32.toNat_inj, toNat_u32, Holds.number_eq h]
  exact Nat.mod_eq_of_lt w.toNat_lt

theorem Holds.u64_eq {w : UInt64} (h : b.Holds pos (bytes64 w)) : b.u64 pos = w := by
  rw [← UInt64.toNat_inj, toNat_u64, Holds.number_eq h]
  exact Nat.mod_eq_of_lt w.toNat_lt

/-! ## Holding what is read -/

theorem holds_field (b : Bytes) (pos n : Nat) : b.Holds pos (b.field pos n).toList := fun i hi ↦ by
  simp only [field, Vector.getElem_toList, Vector.getElem_ofFn]

theorem holds_number (b : Bytes) (pos n : Nat) : b.Holds pos (bigEndian n (b.number pos n)) := by
  induction n with
  | zero => exact holds_nil b pos
  | succ n ih =>
      have hlast := (b.byte (pos + n)).toNat_lt
      have hfront : b.number pos (n + 1) / 256 = b.number pos n := by
        rw [number]
        omega
      have hback : (b.number pos (n + 1)).toUInt8 = b.byte (pos + n) := by
        rw [← UInt8.toNat_inj, number]
        show (_ * 256 + _) % 256 = _
        omega
      rw [bigEndian, holds_append, holds_cons, length_bigEndian, hfront, hback]
      exact ⟨ih, rfl, holds_nil b _⟩

theorem holds_bytes16 {w : UInt16} : b.Holds pos (bytes16 w) ↔ b.u16 pos = w := by
  refine ⟨Holds.u16_eq, ?_⟩
  rintro rfl
  rw [bytes16, toNat_u16]
  exact b.holds_number pos 2

theorem holds_bytes32 {w : UInt32} : b.Holds pos (bytes32 w) ↔ b.u32 pos = w := by
  refine ⟨Holds.u32_eq, ?_⟩
  rintro rfl
  rw [bytes32, toNat_u32]
  exact b.holds_number pos 4

theorem holds_bytes64 {w : UInt64} : b.Holds pos (bytes64 w) ↔ b.u64 pos = w := by
  refine ⟨Holds.u64_eq, ?_⟩
  rintro rfl
  rw [bytes64, toNat_u64]
  exact b.holds_number pos 8

/-- All bytes from `start` to the one before `stop` are `v`. -/
def Filled (b : Bytes) (start stop : Nat) (v : UInt8) : Prop :=
  ∀ i, start ≤ i → i < stop → b.byte i = v

theorem holds_replicate : b.Holds pos (List.replicate n v) ↔ b.Filled pos (pos + n) v := by
  constructor
  · intro h i hi hi'
    have hbyte := h (i - pos) (by rw [List.length_replicate]; omega)
    rwa [List.getElem_replicate, Nat.add_sub_cancel' hi] at hbyte
  · intro h i hi
    rw [List.length_replicate] at hi
    rw [List.getElem_replicate]
    exact h _ (by omega) (by omega)

end Bytes
end MemoryCard
