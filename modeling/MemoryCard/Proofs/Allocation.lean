import MemoryCard.Allocation.Table
import MemoryCard.Proofs.Geometry
import Mathlib.Data.List.Basic

/-! # The allocation table in its block

A table that is read from a block has a link for every data block up to the last one that its place
allows. The free blocks of a card are counted among these.
-/

namespace MemoryCard

namespace Allocation

/-- The link of a data block stands in the table as long as the table has room for it. -/
theorem link?_read (b : Bytes) {block : UInt16} (h : 5 ≤ block.toNat) :
    (read b).link? block =
      if block.toNat < 0x1000 then some (b.u16 (0x0A + (block.toNat - 5) * 2)) else none := by
  have hle : systemBlocks ≤ block := UInt16.le_iff_toNat_le.2 h
  have hsub : (block - systemBlocks).toNat = block.toNat - 5 := UInt16.toNat_sub_of_le _ _ hle
  rw [link?, if_pos hle, hsub, read, Array.getElem?_ofFn]
  by_cases hin : block.toNat < 0x1000
  · rw [if_pos hin, dif_pos (by show _ < 0xFFB; omega)]
  · rw [if_neg hin, dif_neg (by show ¬ _ < 0xFFB; omega)]

/-- What lies below a bound is counted in a shorter row. -/
theorem countP_range'_lt {start bound : Nat} (h : start ≤ bound) (len : Nat) (p : Nat → Bool) :
    (List.range' start len).countP (fun n ↦ n < bound && p n) =
      (List.range' start (min (start + len) bound - start)).countP p := by
  have hbelow {k : Nat} (hk : start + k ≤ bound) :
      (List.range' start k).countP (fun n ↦ n < bound && p n) = (List.range' start k).countP p := by
    refine List.countP_congr fun n hn ↦ ?_
    rw [List.mem_range'_1] at hn
    simp [show n < bound by omega]
  by_cases hlen : start + len ≤ bound
  · rw [Nat.min_eq_left hlen, Nat.add_sub_cancel_left, hbelow hlen]
  · have hsplit : len = (bound - start) + (len - (bound - start)) := by omega
    have habove : ∀ n ∈ List.range' (start + (bound - start)) (len - (bound - start)),
        ¬ (decide (n < bound) && p n) = true := fun n hn ↦ by
      rw [List.mem_range'_1] at hn
      simp [show ¬ n < bound by omega]
    rw [Nat.min_eq_right (by omega), hsplit, ← List.range'_append_1, List.countP_append,
      List.countP_eq_zero.2 habove, Nat.add_zero, hbelow (by omega)]

/-- The free blocks are those with a link of zero, up to the end of the card or of the table. -/
theorem toNat_countFree_read (b : Bytes) (size : UInt16) : ((read b).countFree size).toNat =
    (List.range' 5 (min size.toNat 0x1000 - 5)).countP fun n ↦
      b.u16 (0x0A + (n - 5) * 2) == 0 := by
  have hsize := size.toNat_lt
  have hblocks : dataBlockList size = (List.range' 5 (size.toNat - 5)).map Nat.toUInt16 := rfl
  have hcount : (dataBlockList size).countP (fun block ↦ (read b).link? block == some freeLink) =
      (List.range' 5 (size.toNat - 5)).countP fun n ↦
        n < 0x1000 && b.u16 (0x0A + (n - 5) * 2) == 0 := by
    rw [hblocks, List.countP_map]
    refine List.countP_congr fun n hn ↦ ?_
    rw [List.mem_range'_1] at hn
    have htoNat : n.toUInt16.toNat = n := Nat.mod_eq_of_lt (by omega)
    rw [Function.comp_apply, link?_read b (by omega), htoNat]
    split <;> simp [*]
  have hbound : min (5 + (size.toNat - 5)) 0x1000 - 5 = min size.toNat 0x1000 - 5 := by omega
  have hle := List.countP_le_length (p := fun n ↦ b.u16 (0x0A + (n - 5) * 2) == 0)
    (l := List.range' 5 (min size.toNat 0x1000 - 5))
  rw [List.length_range'] at hle
  rw [countFree, hcount, countP_range'_lt (by decide), hbound]
  exact Nat.mod_eq_of_lt (by omega)

/-- A blank table has its number of free blocks right, on a card whose blocks it can all link. -/
theorem countFree_blank (counter : UInt16) {size : UInt16} (h : size.toNat ≤ 0x1000) :
    (blank counter size).countFree size = (blank counter size).free := by
  have hlink : ∀ block ∈ dataBlockList size,
      ((blank counter size).link? block == some freeLink) = true := by
    intro block hblock
    obtain ⟨n, hn, rfl⟩ := List.mem_map.1 hblock
    rw [List.mem_range'_1] at hn
    have hfive : systemBlocks.toNat = 5 := rfl
    have htoNat : n.toUInt16.toNat = n := Nat.mod_eq_of_lt (by omega)
    have hle : systemBlocks ≤ n.toUInt16 := UInt16.le_iff_toNat_le.2 (by omega)
    have hsub : (n.toUInt16 - systemBlocks).toNat = n - 5 := by
      rw [UInt16.toNat_sub_of_le _ _ hle, htoNat, hfive]
    have hin : n - 5 < capacity := by
      show n - 5 < 0xFFB
      omega
    rw [link?, if_pos hle, hsub, blank, Array.getElem?_replicate, if_pos hin]
    rfl
  have hlength : (dataBlockList size).length = size.toNat - 5 := by
    rw [dataBlockList, List.length_map, List.length_range']
    rfl
  have hfree : (blank counter size).free.toNat = size.toNat - 5 := toNat_dataBlocks size
  rw [countFree, List.countP_eq_length.2 hlink, hlength, ← UInt16.toNat_inj, hfree]
  exact Nat.mod_eq_of_lt (by omega)

end Allocation
end MemoryCard
