import MemoryCard.Seal
import MemoryCard.Proofs.DualSum
import MemoryCard.Proofs.Result

/-! # What a seal guards

A region is intact if the sum stored beside it is its own. Where the number of words in the region
lets the dual sum tell all totals apart, a change of one word is never overlooked, whether the word
belongs to the region or to the stored sum.
-/

namespace MemoryCard

theorem SumCheck.valid_iff {c : SumCheck} : c.valid = true ↔ c.stored = c.computed := beq_iff_eq

/-- A packed sum has the plain sum in front and that of the complements behind it. -/
theorem Bytes.u32_eq_packed {b : Bytes} {pos : Nat} {s : DualSum} :
    b.u32 pos = s.packed ↔ b.u16 pos = s.sum ∧ b.u16 (pos + 2) = s.inverse := by
  have hupper := s.sum.toNat_lt
  have hlower := s.inverse.toNat_lt
  have hback := (b.u16 (pos + 2)).toNat_lt
  rw [← UInt32.toNat_inj, ← UInt16.toNat_inj, ← UInt16.toNat_inj, toNat_u32, s.toNat_packed,
    number_add b pos 2 2, ← toNat_u16, ← toNat_u16]
  omega

namespace Seal

variable {s : Seal} {b b' : Bytes} {size words pos : Nat}

/-! ## Seals in a buffer -/

/-- The region and the stored sum lie in a buffer of `size` bytes. -/
structure Inside (s : Seal) (size : Nat) : Prop where
  ordered : s.start.toNat ≤ s.stop.toNat
  region : s.stop.toNat ≤ size
  stored : s.storedAt.toNat + 4 ≤ size

instance (s : Seal) (size : Nat) : Decidable (s.Inside size) :=
  decidable_of_iff
    (s.start.toNat ≤ s.stop.toNat ∧ s.stop.toNat ≤ size ∧ s.storedAt.toNat + 4 ≤ size)
    ⟨fun ⟨ordered, region, stored⟩ ↦ ⟨ordered, region, stored⟩,
      fun ⟨ordered, region, stored⟩ ↦ ⟨ordered, region, stored⟩⟩

/-- The buffer with `sum` in the place of the stored sum. -/
def put (s : Seal) (b : Bytes) (sum : UInt32) : Bytes :=
  b.overwrite s.storedAt.toNat (bytes32 sum).toByteArray

theorem toNat_needed (s : Seal) : s.needed.toNat = max s.stop.toNat (s.storedAt + 4).toNat :=
  UInt64.toNat_max s.stop (s.storedAt + 4)

theorem check_eq_ok_iff :
    s.check size = .ok () ↔ s.start.toNat ≤ s.stop.toNat ∧ s.needed.toNat ≤ size := by
  rw [← UInt64.le_iff_toNat_le, ← UInt64.not_lt, ← Nat.not_lt, ← not_or]
  unfold check
  split
  · rename_i hshort
    exact iff_of_false nofun (not_not_intro hshort)
  · rename_i hlong
    exact iff_of_true rfl hlong

theorem reach_eq_ok_iff : s.reach size = .ok () ↔ s.storedAt.toNat + 4 ≤ size := by
  unfold reach needRange
  split
  · exact iff_of_true rfl (by omega)
  · exact iff_of_false nofun (by omega)

theorem reach_eq_panic (h : size < s.storedAt.toNat + 4) : s.reach size = .error .panic :=
  if_neg fun hreach ↦ Nat.not_le.2 h hreach.2

/-- A seal is let through if it is no longer than the buffer and its sum is found there. -/
theorem inside_iff : s.Inside size ↔ s.check size = .ok () ∧ s.reach size = .ok () := by
  have hsum : (s.storedAt + 4).toNat ≤ s.storedAt.toNat + 4 := by
    rw [UInt64.toNat_add]
    exact Nat.mod_le _ _
  rw [check_eq_ok_iff, reach_eq_ok_iff, toNat_needed]
  constructor
  · rintro ⟨hordered, hregion, hstored⟩
    omega
  · rintro ⟨⟨hordered, hneeded⟩, hstored⟩
    exact ⟨hordered, by omega, hstored⟩

theorem Inside.verify_eq (h : s.Inside b.size) :
    s.verify b = .ok ⟨b.u32 s.storedAt.toNat, s.compute b⟩ := by
  obtain ⟨hcheck, hreach⟩ := inside_iff.1 h
  rw [verify, hcheck, ok_bind, hreach]
  rfl

theorem Inside.store_eq (h : s.Inside b.size) :
    s.store b = .ok (s.compute b, s.put b (s.compute b)) := by
  obtain ⟨hcheck, hreach⟩ := inside_iff.1 h
  rw [store, hcheck, ok_bind, hreach]
  rfl

/-! ## Intact regions -/

/-- The stored sum is the sum of the region. -/
def Intact (s : Seal) (b : Bytes) : Prop := b.u32 s.storedAt.toNat = s.compute b

theorem intact_iff : s.Intact b ↔
    b.u16 s.storedAt.toNat = (DualSum.ofBytes (s.region b)).sum ∧
      b.u16 (s.storedAt.toNat + 2) = (DualSum.ofBytes (s.region b)).inverse :=
  Bytes.u32_eq_packed

theorem valid_iff_of_verify {c : SumCheck} (h : s.verify b = .ok c) :
    c.valid = true ↔ s.Intact b := by
  obtain ⟨-, -, h⟩ := bind_eq_ok.1 h
  obtain ⟨-, -, h⟩ := bind_eq_ok.1 h
  cases h
  exact SumCheck.valid_iff

/-- The region has `words` words, a number for which the dual sum tells all totals apart. It lies in
a buffer of `size` bytes, and so does the stored sum beside it. -/
structure Fits (s : Seal) (words size : Nat) : Prop where
  stop_eq : s.stop.toNat = s.start.toNat + 2 * words
  telling : words % 0x10000 ≠ 1
  inside : s.stop.toNat ≤ size
  apart : s.storedAt.toNat + 4 ≤ s.start.toNat ∨ s.stop.toNat ≤ s.storedAt.toNat

/-- A word of the region begins at `pos`. -/
def Covers (s : Seal) (words pos : Nat) : Prop := ∃ k < words, pos = s.start.toNat + 2 * k

/-- A word of the region or of the stored sum begins at `pos`. -/
def Guards (s : Seal) (words pos : Nat) : Prop :=
  s.Covers words pos ∨ pos = s.storedAt.toNat ∨ pos = s.storedAt.toNat + 2

/-- A seal at the beginning of a buffer with its sum behind it guards all words up to the end of the
sum. -/
theorem Fits.guards_front {size k : Nat} (h : s.Fits words size) (hstart : s.start.toNat = 0)
    (hstored : s.storedAt.toNat = s.stop.toNat) (hk : k < words + 2) : s.Guards words (2 * k) := by
  have hstop := h.stop_eq
  by_cases hcovered : k < words
  · exact .inl ⟨k, hcovered, by omega⟩
  · exact .inr (by omega)

/-- A seal right behind its sum guards all words from the beginning of the buffer on. -/
theorem guards_behind {k : Nat} (hstored : s.storedAt.toNat = 0) (hstart : s.start.toNat = 4)
    (hk : k < words + 2) : s.Guards words (2 * k) := by
  by_cases hcovered : 2 ≤ k
  · exact .inl ⟨k - 2, by omega, by omega⟩
  · exact .inr (by omega)

theorem Fits.region_eq (h : s.Fits words b.size) (b' : Bytes) :
    s.region b' = b'.slice s.start.toNat (2 * words) := by
  rw [region, h.stop_eq, Nat.add_sub_cancel_left]

theorem Fits.words_region (h : s.Fits words b.size) : DualSum.words (s.region b) =
    (List.range words).map fun i ↦ b.u16 (s.start.toNat + 2 * i) := by
  rw [h.region_eq, DualSum.words_slice (h.stop_eq ▸ h.inside)]

/-- The sum of a region changes with every single word of it. -/
theorem Fits.ofBytes_ne (h : s.Fits words b.size) (hdiffer : b.DifferAt b' pos)
    (hpos : s.Covers words pos) :
    DualSum.ofBytes (s.region b') ≠ DualSum.ofBytes (s.region b) := by
  obtain ⟨k, hk, rfl⟩ := hpos
  have h' : s.Fits words b'.size := hdiffer.size ▸ h
  rw [ne_eq, DualSum.ofBytes_eq_iff (by rw [h.words_region, h'.words_region]; simp),
    h.words_region, h'.words_region, List.length_map, List.length_range]
  rintro (htotal | ⟨hwords, -⟩)
  · refine (DualSum.differInOne_map hk hdiffer.word fun i _ hi ↦ hdiffer.u16_eq ?_).total_ne htotal
    omega
  · exact h.telling hwords

/-- No change of a guarded word is overlooked. -/
theorem Intact.not_intact (hb : s.Intact b) (h : s.Fits words b.size)
    (hdiffer : b.DifferAt b' pos) (hpos : s.Guards words pos) : ¬ s.Intact b' := by
  have hapart := h.apart
  have hstop := h.stop_eq
  rw [intact_iff] at hb ⊢
  rintro ⟨hsum, hinverse⟩
  rcases hpos with hcovered | hstored
  · obtain ⟨k, hk, rfl⟩ := id hcovered
    rw [hdiffer.u16_eq (by omega)] at hsum hinverse
    refine h.ofBytes_ne hdiffer hcovered (DualSum.ext_toNat.2 ⟨?_, ?_⟩)
    · rw [← hsum, hb.1]
    · rw [← hinverse, hb.2]
  · have hregion : s.region b' = s.region b := by
      rw [h.region_eq, h.region_eq]
      refine Bytes.slice_congr hdiffer.size fun i hi hi' ↦ hdiffer.others i ?_
      omega
    rw [hregion] at hsum hinverse
    rcases hstored with rfl | rfl
    · exact hdiffer.word (hsum.trans hb.1.symm)
    · exact hdiffer.word (hinverse.trans hb.2.symm)

end Seal
end MemoryCard
