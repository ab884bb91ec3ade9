import MemoryCard.Allocation.Walk
import MemoryCard.Proofs.Geometry
import Mathlib.Data.List.Nodup
import Mathlib.Data.List.Perm.Subperm
import Mathlib.Data.List.Range

/-! # Chains that a file can have

A proper chain has blocks, all of them data blocks, and none of them twice. A row of blocks that fits
the card is one. There is room for no more blocks in a chain than the card has data blocks.
-/

namespace MemoryCard

/-- A chain that a file on a card of `size` blocks can have. -/
structure ProperChain (size : UInt16) (chain : List UInt16) : Prop where
  ne_nil : chain ≠ []
  nodup : chain.Nodup
  isData : ∀ b ∈ chain, isDataBlock size b = true

theorem ProperChain.toNat_lt {size b : UInt16} {chain : List UInt16} (h : ProperChain size chain)
    (hb : b ∈ chain) : b.toNat < size.toNat :=
  (isDataBlock_iff.1 (h.isData b hb)).2

/-! ## Blocks in a row -/

/-- The `len` blocks from `first` on. -/
def blockRow (first len : Nat) : List UInt16 := (List.range' first len).map Nat.toUInt16

@[simp] theorem length_blockRow (first len : Nat) : (blockRow first len).length = len := by
  simp [blockRow]

theorem mem_blockRow {first len : Nat} {b : UInt16} (h : first + len ≤ 0x10000) :
    b ∈ blockRow first len ↔ first ≤ b.toNat ∧ b.toNat < first + len := by
  simp only [blockRow, List.mem_map, List.mem_range'_1]
  constructor
  · rintro ⟨n, hn, rfl⟩
    have : n.toUInt16.toNat = n := by simp; omega
    omega
  · intro hb
    exact ⟨b.toNat, hb, by simp⟩

theorem nodup_blockRow {first len : Nat} (h : first + len ≤ 0x10000) :
    (blockRow first len).Nodup := by
  refine List.Nodup.map_on (fun m hm n hn e ↦ ?_) (List.nodup_range' (h := by decide))
  rw [List.mem_range'_1] at hm hn
  have hmod : m % 0x10000 = n % 0x10000 := by simpa using congrArg UInt16.toNat e
  omega

theorem blockRow_proper {first len : Nat} {size : UInt16} (hlen : len ≠ 0) (hfirst : 5 ≤ first)
    (hstop : first + len ≤ size.toNat) : ProperChain size (blockRow first len) := by
  have hsize := size.toNat_lt
  have hfits : first + len ≤ 0x10000 := by omega
  refine ⟨?_, nodup_blockRow hfits, fun b hb ↦ ?_⟩
  · rw [← List.length_pos_iff_ne_nil, length_blockRow]
    omega
  · rw [mem_blockRow hfits] at hb
    rw [isDataBlock_iff]
    omega

/-! ## Room for blocks -/

section Room

variable {size : UInt16} {blocks : List UInt16}

theorem dataBlockList_eq (size : UInt16) :
    Allocation.dataBlockList size = blockRow 5 (size.toNat - 5) := rfl

theorem dataBlocks_fit (size : UInt16) : 5 + (size.toNat - 5) ≤ 0x10000 := by
  have := size.toNat_lt
  omega

theorem mem_dataBlockList {b : UInt16} :
    b ∈ Allocation.dataBlockList size ↔ isDataBlock size b = true := by
  rw [dataBlockList_eq, mem_blockRow (dataBlocks_fit size), isDataBlock_iff]
  omega

@[simp] theorem length_dataBlockList (size : UInt16) :
    (Allocation.dataBlockList size).length = size.toNat - 5 :=
  length_blockRow 5 _

theorem nodup_dataBlockList (size : UInt16) : (Allocation.dataBlockList size).Nodup :=
  nodup_blockRow (dataBlocks_fit size)

theorem subperm_dataBlockList (hdata : ∀ b ∈ blocks, isDataBlock size b = true)
    (hnodup : blocks.Nodup) : blocks.Subperm (Allocation.dataBlockList size) :=
  hnodup.subperm fun b hb ↦ mem_dataBlockList.2 (hdata b hb)

theorem length_le_of_nodup (hdata : ∀ b ∈ blocks, isDataBlock size b = true)
    (hnodup : blocks.Nodup) : blocks.length ≤ size.toNat - 5 := by
  rw [← length_dataBlockList]
  exact (subperm_dataBlockList hdata hnodup).length_le

/-- Blocks of a chain can be counted in 16 bits. -/
theorem length_lt_of_nodup (hdata : ∀ b ∈ blocks, isDataBlock size b = true)
    (hnodup : blocks.Nodup) : blocks.length < 0x10000 :=
  (length_le_of_nodup hdata hnodup).trans_lt (Nat.sub_lt_of_lt size.toNat_lt)

/-- There are as many blocks as there is room for exactly if no data block is missing. -/
theorem length_eq_iff_of_nodup (hdata : ∀ b ∈ blocks, isDataBlock size b = true)
    (hnodup : blocks.Nodup) :
    blocks.length = size.toNat - 5 ↔ ∀ b, isDataBlock size b = true → b ∈ blocks := by
  have hsub := subperm_dataBlockList hdata hnodup
  constructor
  · intro hlength b hb
    have hperm := hsub.perm_of_length_le (by rw [length_dataBlockList, hlength])
    exact hperm.mem_iff.2 (mem_dataBlockList.2 hb)
  · intro hall
    have hrow := (nodup_dataBlockList size).subperm fun b hb ↦ hall b (mem_dataBlockList.1 hb)
    refine Nat.le_antisymm (length_le_of_nodup hdata hnodup) ?_
    rw [← length_dataBlockList]
    exact hrow.length_le

end Room

/-! ## Files in one piece -/

/-- The blocks from `start` to the one before `stop` are data blocks of the card, and there are some. -/
def IsRow (size start stop : UInt16) : Prop :=
  5 ≤ start.toNat ∧ start.toNat < stop.toNat ∧ stop.toNat ≤ size.toNat

instance (size start stop : UInt16) : Decidable (IsRow size start stop) :=
  inferInstanceAs (Decidable (_ ∧ _ ∧ _))

theorem IsRow.proper {size start stop : UInt16} (h : IsRow size start stop) :
    ProperChain size (blockRow start.toNat (stop.toNat - start.toNat)) := by
  obtain ⟨hfirst, hlt, hstop⟩ := h
  exact blockRow_proper (by omega) hfirst (by omega)

/-- The file between two bounds fits in one piece exactly if there is a row of data blocks between
them. -/
theorem contiguous_eq_ite (start stop size : UInt16) :
    contiguous start (if start ≤ stop then stop - start else 0) size =
      if IsRow size start stop then .ok (blockRow start.toNat (stop.toNat - start.toNat))
      else .error (.corruptChain start
        (if stop ≤ start then .zeroLength else .beyondCard start stop.toNat size)) := by
  by_cases hle : stop ≤ start
  · have hempty : (if start ≤ stop then stop - start else 0) = 0 := by
      split
      · rename_i hge
        rw [UInt16.le_antisymm hge hle, UInt16.sub_self]
      · rfl
    have hrow : ¬ IsRow size start stop := fun h ↦
      absurd (UInt16.le_iff_toNat_le.1 hle) (Nat.not_le.2 h.2.1)
    rw [hempty, if_neg hrow, if_pos hle]
    rfl
  · have hlt : start.toNat < stop.toNat := UInt16.lt_iff_toNat_lt.1 (UInt16.not_le.1 hle)
    have hsub : start ≤ stop := UInt16.le_iff_toNat_le.2 hlt.le
    have hlen : (stop - start).toNat = stop.toNat - start.toNat := UInt16.toNat_sub_of_le _ _ hsub
    have hne : stop - start ≠ 0 := fun h ↦ by
      have := congrArg UInt16.toNat h
      rw [hlen, UInt16.toNat_zero] at this
      omega
    have hstop : start.toNat + (stop - start).toNat = stop.toNat := by omega
    have houtside : (!isDataBlock size start) = true ∨ size.toNat < stop.toNat ↔
        ¬ IsRow size start stop := by
      rw [Bool.not_eq_true', Bool.eq_false_iff, ne_eq, isDataBlock_iff, IsRow]
      omega
    rw [if_pos hsub, if_neg hle, contiguous, if_neg hne, hstop, hlen]
    simp only [houtside, ite_not]
    rfl

end MemoryCard
