import MemoryCard.Proofs.Careful.Seal
import MemoryCard.Proofs.Holds

/-! # Storing a sum and verifying it

A sum is stored beside the region that it is the sum of. If the four bytes have no place in common
with the region, storing leaves the region as it is, so verifying finds the sum that was stored, and
this does not change with anything that happens elsewhere in the buffer. Each system block has its own
layout: the allocation table has the sum in front of the region, header and directory behind it.
-/

namespace MemoryCard

open Bytes Careful

namespace Seal

variable {s : Seal} {b b' : Bytes} {sum : UInt32}

/-- The place `i` is one of the region. -/
def InRegion (s : Seal) (i : Nat) : Prop := s.start.toNat ≤ i ∧ i < s.stop.toNat

/-- The place `i` is one of the stored sum. -/
def InSum (s : Seal) (i : Nat) : Prop := s.storedAt.toNat ≤ i ∧ i < s.storedAt.toNat + 4

/-- The region and the stored sum have no place in common. -/
def Apart (s : Seal) : Prop := ∀ i, s.InRegion i → ¬ s.InSum i

/-- The buffers are the same in all places of the seal. -/
structure Spares (s : Seal) (b b' : Bytes) : Prop where
  size : b'.size = b.size
  region : ∀ i, s.InRegion i → b'.byte i = b.byte i
  sum : ∀ i, s.InSum i → b'.byte i = b.byte i

/-- Storing the sum of a region has made `sealed` of the buffer: the sum verifies, also after any
change that spares the seal, nothing else has changed, and storing the sum again changes nothing. -/
structure Seals (s : Seal) (b : Bytes) (sum : UInt32) (sealed : Bytes) : Prop where
  stored : s.store b = .ok (sum, sealed)
  inPlace : s.HasEnd → s.storeInWords?.on b = some (.ok sum, sealed)
  size : sealed.size = b.size
  others : ∀ i, ¬ s.InSum i → sealed.byte i = b.byte i
  valid : (SumCheck.mk sum sum).valid = true
  verified : s.verify sealed = .ok ⟨sum, sum⟩
  again : s.store sealed = .ok (sum, sealed)
  lasting : ∀ b', s.Spares sealed b' → s.verify b' = .ok ⟨sum, sum⟩

/-! ## What a seal depends on -/

theorem region_congr (hsize : b'.size = b.size) (h : ∀ i, s.InRegion i → b'.byte i = b.byte i) :
    s.region b' = s.region b := by
  refine slice_congr hsize fun i hi hi' ↦ h i ⟨hi, ?_⟩
  omega

theorem compute_congr (hsize : b'.size = b.size) (h : ∀ i, s.InRegion i → b'.byte i = b.byte i) :
    s.compute b' = s.compute b := by
  rw [compute, compute, region_congr hsize h]

/-- Verifying reads nothing but the region and the stored sum. -/
theorem Spares.verify_eq (h : s.Spares b b') : s.verify b' = s.verify b := by
  have hsum : Agree 4 b' s.storedAt.toNat b s.storedAt.toNat := fun i hi ↦
    h.sum _ ⟨Nat.le_add_right _ _, Nat.add_lt_add_left hi _⟩
  rw [verify, verify, h.size, hsum.u32_eq, compute_congr h.size h.region]

/-! ## What storing does -/

@[simp] theorem size_put : (s.put b sum).size = b.size := size_overwrite _ _ _

theorem byte_put (h : s.storedAt.toNat + 4 ≤ b.size) (i : Nat) : (s.put b sum).byte i =
    if s.storedAt.toNat ≤ i ∧ i < s.storedAt.toNat + 4 then
      Bytes.byte (bytes32 sum).toByteArray (i - s.storedAt.toNat)
    else b.byte i := by
  have hsize : (bytes32 sum).toByteArray.size = 4 := by rw [List.size_toByteArray, length_bytes32]
  rw [put, byte_overwrite _ _ _ _ (hsize ▸ h), hsize]

theorem byte_put_of_not_inSum (h : s.storedAt.toNat + 4 ≤ b.size) {i : Nat} (hi : ¬ s.InSum i) :
    (s.put b sum).byte i = b.byte i :=
  (byte_put h i).trans (if_neg hi)

theorem u32_put (h : s.storedAt.toNat + 4 ≤ b.size) : (s.put b sum).u32 s.storedAt.toNat = sum := by
  refine Holds.u32_eq fun i hi ↦ ?_
  have hbyte := holds_toByteArray (bytes32 sum) i hi
  rw [length_bytes32] at hi
  rw [byte_put h, if_pos ⟨Nat.le_add_right _ _, Nat.add_lt_add_left hi _⟩, Nat.add_sub_cancel_left]
  rwa [Nat.zero_add] at hbyte

/-- Putting the number that is there already changes nothing. -/
theorem put_put (h : s.storedAt.toNat + 4 ≤ b.size) : s.put (s.put b sum) sum = s.put b sum := by
  have hput : s.storedAt.toNat + 4 ≤ (s.put b sum).size := by rwa [size_put]
  refine ext_byte size_put fun i ↦ ?_
  rw [byte_put hput, byte_put h]
  split_ifs <;> rfl

theorem compute_put (h : s.storedAt.toNat + 4 ≤ b.size) (hapart : s.Apart) :
    s.compute (s.put b sum) = s.compute b :=
  compute_congr size_put fun i hi ↦ byte_put_of_not_inSum h (hapart i hi)

theorem Inside.seals (h : s.Inside b.size) (hapart : s.Apart) :
    s.Seals b (s.compute b) (s.put b (s.compute b)) := by
  have hput : s.Inside (s.put b (s.compute b)).size := by rwa [size_put]
  have hverified : s.verify (s.put b (s.compute b)) = .ok ⟨s.compute b, s.compute b⟩ := by
    rw [hput.verify_eq, u32_put h.stored, compute_put h.stored hapart]
  refine ⟨h.store_eq, fun hend ↦ ?_, size_put, fun i ↦ byte_put_of_not_inSum h.stored,
    SumCheck.valid_iff.2 rfl, hverified, ?_, fun b' hspares ↦ ?_⟩
  · rw [hend.storeInWords?_eq, outcome, h.store_eq]
  · rw [hput.store_eq, compute_put h.stored hapart, put_put h.stored]
  · rw [hspares.verify_eq, hverified]

/-- Storing the sum of a region makes it verify for good. A seal that does not lie in the buffer is
told to be too long, and the buffer stays as it is. -/
theorem store_and_verify (s : Seal) (b : Bytes) :
    (s.Inside b.size → s.Apart → ∃ sum sealed, s.Seals b sum sealed) ∧
      (s.HasEnd → ¬ s.Inside b.size →
        s.verify b = .error (s.tooLong b.size) ∧ s.store b = .error (s.tooLong b.size) ∧
          s.storeInWords?.on b = some (.error (s.tooLong b.size), b)) := by
  refine ⟨fun hinside hapart ↦ ⟨_, _, hinside.seals hapart⟩, fun hend hout ↦ ?_⟩
  have hcheck := hend.check_eq_error hout
  refine ⟨verify_eq_error hcheck, store_eq_error hcheck, ?_⟩
  rw [hend.storeInWords?_eq, outcome, store_eq_error hcheck]

/-- A region of five bytes behind its sum, and the same region with the sum at the very end. -/
theorem store_and_verify_five :
    (∃ sum sealed, Seals ⟨4, 9, 0⟩ (fill 10 7) sum sealed) ∧
      verify ⟨4, 9, 8⟩ (fill 10 7) = .error (.tooShort "checksum region" 12 10) := by
  constructor
  · refine (store_and_verify ⟨4, 9, 0⟩ (fill 10 7)).1 ⟨by decide, by decide, by decide⟩ ?_
    rintro i ⟨hi, -⟩ ⟨-, hi'⟩
    exact Nat.lt_irrefl _ (Nat.lt_of_lt_of_le hi' hi)
  · refine ((store_and_verify ⟨4, 9, 8⟩ (fill 10 7)).2 ?_ ?_).1
    · show _ < _
      decide
    · intro h
      exact absurd h.stored (by decide)

end Seal
end MemoryCard
