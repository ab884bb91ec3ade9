import Mathlib.Data.Finset.Card
import MemoryCard.Proofs.Card.Stored
import MemoryCard.Proofs.Card.Written

/-! # Free blocks and claimed blocks

A valid allocation table knows how many blocks are free, and the files of a card claim blocks. A block
can be both only where a chain is damaged: it is the last one of the chain then, since a chain does not
lead on from a free block. So each damaged file accounts for at most one such block.
-/

namespace MemoryCard

namespace Allocation

variable {a : Allocation} {size : UInt16}

/-- The data blocks with the mark of a free block. -/
def freeBlocks (a : Allocation) (size : UInt16) : List UInt16 :=
  (dataBlockList size).filter fun b ↦ a.link? b == some freeLink

theorem mem_freeBlocks {b : UInt16} :
    b ∈ a.freeBlocks size ↔ isDataBlock size b = true ∧ a.link? b = some freeLink := by
  rw [freeBlocks, List.mem_filter, mem_dataBlockList, beq_iff_eq]

theorem nodup_freeBlocks (a : Allocation) (size : UInt16) : (a.freeBlocks size).Nodup :=
  (nodup_dataBlockList size).filter _

theorem length_freeBlocks_le (a : Allocation) (size : UInt16) :
    (a.freeBlocks size).length ≤ size.toNat - 5 := by
  rw [← length_dataBlockList]
  exact List.length_filter_le _ _

/-- A word has room for the number of free blocks. -/
theorem toNat_countFree (a : Allocation) (size : UInt16) :
    (a.countFree size).toNat = (a.freeBlocks size).length := by
  have hsize := size.toNat_lt
  have hle := a.length_freeBlocks_le size
  rw [countFree, List.countP_eq_length_filter]
  exact Nat.mod_eq_of_lt (by show (a.freeBlocks size).length < _; omega)

end Allocation

namespace Card

variable {c : Card}

/-- The blocks of the regular files. -/
def claimedBlocks (c : Card) : Finset UInt16 := (c.regularFiles.flatMap SaveFile.chain).toFinset

/-- The regular files whose chains are damaged. -/
def damagedFiles (c : Card) : List SaveFile := c.regularFiles.filter (·.issues.defect?.isSome)

theorem mem_claimedBlocks {b : UInt16} :
    b ∈ c.claimedBlocks ↔ ∃ f ∈ c.regularFiles, b ∈ f.chain := by
  simp [claimedBlocks]

namespace Consistent

/-- A free block in a chain is the last one of a damaged file. -/
theorem exists_damaged (h : c.Consistent) {b : UInt16} (hclaimed : b ∈ c.claimedBlocks)
    (hfree : b ∈ c.tables.allocation.freeBlocks c.size) :
    ∃ f ∈ c.damagedFiles, f.chain.getLast? = some b := by
  obtain ⟨f, hf, hb⟩ := mem_claimedBlocks.1 hclaimed
  obtain ⟨hlast, hdefect⟩ := (h.isPath hf).ends_of_free hb (Allocation.mem_freeBlocks.1 hfree).2
  exact ⟨f, List.mem_filter.2 ⟨hf, by rw [hdefect]; rfl⟩, hlast⟩

/-- Claimed blocks and free blocks are data blocks, and as many of them are both as there are damaged
files, at most. -/
theorem card_claimed_add_free_le (h : c.Consistent) :
    c.claimedBlocks.card + (c.tables.allocation.freeBlocks c.size).length ≤
      (c.size.toNat - 5) + c.damagedFiles.length := by
  set free := (c.tables.allocation.freeBlocks c.size).toFinset with hfree
  have hlength : (c.tables.allocation.freeBlocks c.size).length = free.card :=
    (List.toFinset_card_of_nodup (Allocation.nodup_freeBlocks _ _)).symm
  have hunion : (c.claimedBlocks ∪ free).card ≤ c.size.toNat - 5 := by
    rw [← length_dataBlockList, ← List.toFinset_card_of_nodup (nodup_dataBlockList c.size)]
    refine Finset.card_le_card fun b hb ↦ List.mem_toFinset.2 (mem_dataBlockList.2 ?_)
    rcases Finset.mem_union.1 hb with hb | hb
    · obtain ⟨f, hf, hb⟩ := mem_claimedBlocks.1 hb
      exact (h.proper_regular hf).isData b hb
    · exact (Allocation.mem_freeBlocks.1 (List.mem_toFinset.1 hb)).1
  have hinter : (c.claimedBlocks ∩ free).card ≤ c.damagedFiles.length := by
    -- a block that is both is the last one of a damaged file
    have hlast : c.claimedBlocks ∩ free ⊆
        (c.damagedFiles.filterMap (·.chain.getLast?)).toFinset := fun b hb ↦ by
      obtain ⟨hclaimed, hb⟩ := Finset.mem_inter.1 hb
      obtain ⟨f, hf, hlast⟩ := h.exists_damaged hclaimed (List.mem_toFinset.1 hb)
      exact List.mem_toFinset.2 (List.mem_filterMap.2 ⟨f, hf, hlast⟩)
    calc (c.claimedBlocks ∩ free).card
        ≤ (c.damagedFiles.filterMap (·.chain.getLast?)).toFinset.card := Finset.card_le_card hlast
      _ ≤ (c.damagedFiles.filterMap (·.chain.getLast?)).length := List.toFinset_card_le _
      _ ≤ c.damagedFiles.length := List.length_filterMap_le _ _
  have hsum := Finset.card_union_add_card_inter c.claimedBlocks free
  rw [hlength]
  omega

end Consistent

/-- On a card whose allocation table in use is valid, the number of free blocks and the number of
different blocks of the regular files are together at most the number of data blocks, and one more for
each file with a damaged chain. So there are never more free blocks than data blocks, and on a card
without damaged chains a free block is not claimed. -/
theorem claimed_add_free_le (h : c.Reachable)
    (hvalid : (c.tables.allocations.copy c.tables.allocations.inUse).valid = true) :
    c.free.toNat = (c.tables.allocation.freeBlocks c.size).length ∧
      c.claimedBlocks.card + c.free.toNat ≤
        c.dataSize.toNat + c.regularFiles.countP (·.issues.defect?.isSome) ∧
      c.free ≤ c.dataSize ∧
      ((∀ f ∈ c.regularFiles, f.issues.defect? = none) →
        ∀ b ∈ c.tables.allocation.freeBlocks c.size, c.usage.count b = 0) := by
  have hconsistent := h.consistent
  have hfree : c.free.toNat = (c.tables.allocation.freeBlocks c.size).length := by
    have hcount : c.tables.allocation.countFree c.size = c.free :=
      beq_iff_eq.1 (h.isConsistent_of_valid hvalid)
    rw [← hcount, Allocation.toNat_countFree]
  have hsize : c.dataSize.toNat = c.size.toNat - 5 := toNat_dataBlocks c.size
  refine ⟨hfree, ?_, ?_, fun hsound b hb ↦ ?_⟩
  · rw [hfree, hsize, List.countP_eq_length_filter]
    exact hconsistent.card_claimed_add_free_le
  · rw [UInt16.le_iff_toNat_le, hfree, hsize]
    exact Allocation.length_freeBlocks_le _ _
  · rw [hconsistent.count_eq_zero (Allocation.mem_freeBlocks.1 hb).1]
    intro f hf hmem
    obtain ⟨-, hdefect⟩ := (hconsistent.isPath hf).ends_of_free hmem (Allocation.mem_freeBlocks.1 hb).2
    cases (hsound f hf).symm.trans hdefect

/-- The entry of a file of `len` blocks. -/
def entryOf (first len : UInt16) : Entry :=
  { Entry.read .empty 0 with firstBlock := first, length := len }

/-- One file of two blocks, the second of which has been marked as free. -/
def halfErased : System where
  header := .read .empty
  directories d := ⟨[entryOf 5 2], d.val.toUInt16, 0⟩
  allocations a := ⟨a.val.toUInt16, 2, 5, #[6, Allocation.freeLink, Allocation.freeLink], 0⟩

/-- On eight blocks, the chain of this file is damaged and stops at block 6. -/
theorem exists_halfErased : ∃ sums image c f,
    Image.write ⟨.fill (8 * blockSize) 0, none⟩ halfErased = .ok (sums, image) ∧
      ofImage image = .ok c ∧ c.size = 8 ∧
      (c.tables.allocations.copy c.tables.allocations.inUse).valid = true ∧
      c.tables.allocation.freeBlocks 8 = [6, 7] ∧
      c.tables.allocation.walk 5 2 8 = .ok ⟨[5, 6], some (.linkToFree 6), none⟩ ∧
      c.regularFiles = [f] ∧ f.chain = [5, 6] ∧ f.issues.defect? = some (.linkToFree 6) := by
  obtain ⟨sums, image, c, hwrite, hopen, hsize, hshows⟩ := exists_shows halfErased
  have hlink (a : Copy) : (halfErased.fit.allocations a).link? 5 = some 6 ∧
      (halfErased.fit.allocations a).link? 6 = some Allocation.freeLink ∧
      (halfErased.fit.allocations a).link? 7 = some Allocation.freeLink := ⟨rfl, rfl, rfl⟩
  have hfree (a : Copy) : (halfErased.fit.allocations a).freeBlocks 8 = [6, 7] := by
    obtain ⟨h₅, h₆, h₇⟩ := hlink a
    have hblocks : Allocation.dataBlockList 8 = [5, 6, 7] := by decide
    rw [Allocation.freeBlocks, hblocks]
    simp only [List.filter, h₅, h₆, h₇]
    rfl
  have hvalid (a : Copy) : (c.tables.allocations.copy a).valid = true := by
    rw [hshows.allocation_valid, ← UInt16.toNat_inj, Allocation.toNat_countFree, hsize, hfree]
    rfl
  have hallocation : c.tables.allocation.link? 5 = some 6 ∧
      c.tables.allocation.link? 6 = some Allocation.freeLink ∧
      c.tables.allocation.freeBlocks 8 = [6, 7] := by
    rw [Tables.allocation, Copies.current, hshows.allocation]
    exact ⟨(hlink _).1, (hlink _).2.1, hfree _⟩
  obtain ⟨hlink₅, hlink₆, hfreeBlocks⟩ := hallocation
  have hpath : c.tables.allocation.IsPath 8 [5, 6] (some (.linkToFree 6)) :=
    { isData := by
        simp only [List.forall_mem_cons]
        exact ⟨rfl, rfl, List.forall_mem_nil _⟩
      nodup := by decide
      linked := List.isChain_pair.2 hlink₅
      ending := ⟨6, rfl, .broken (.free hlink₆)⟩ }
  have hwalk := hpath.walk_eq rfl (by rw [hlink₅]; decide) 2
  have hused : c.tables.directory.used = [(0, entryOf 5 2)] := by
    rw [Tables.directory, Copies.current, hshows.directory]
    rfl
  have hreach : c.Reachable := ⟨image, c, [], hopen, rfl⟩
  have hfiles := hreach.consistent.regularFiles_eq
  rw [Listing.ofTables, hused, hsize] at hfiles
  simp only [Listing.build, Listing.file?, entryOf, hwalk] at hfiles
  exact ⟨sums, image, c, _, hwrite, hopen, hsize, hvalid _, hfreeBlocks, hwalk, hfiles, rfl, rfl⟩

/-- On a card of eight blocks one of the two free blocks is also claimed, by a file with a damaged chain.
No more blocks could be free. -/
theorem claimed_add_free_le_halfErased : ∃ sums image c,
    Image.write ⟨.fill (8 * blockSize) 0, none⟩ halfErased = .ok (sums, image) ∧
      ofImage image = .ok c ∧ c.Reachable ∧
      (c.tables.allocations.copy c.tables.allocations.inUse).valid = true ∧
      c.claimedBlocks = {5, 6} ∧ c.tables.allocation.freeBlocks c.size = [6, 7] ∧
      c.free.toNat = (c.tables.allocation.freeBlocks c.size).length ∧ c.dataSize = 3 ∧
      c.regularFiles.countP (·.issues.defect?.isSome) = 1 ∧
      c.claimedBlocks.card + c.free.toNat ≤
        c.dataSize.toNat + c.regularFiles.countP (·.issues.defect?.isSome) := by
  obtain ⟨sums, image, c, f, hwrite, hopen, hsize, hvalid, hfreeBlocks, -, hfiles, hchain, hdefect⟩ :=
    exists_halfErased
  have hreach : c.Reachable := ⟨image, c, [], hopen, rfl⟩
  obtain ⟨hlength, hsum, -, -⟩ := claimed_add_free_le hreach hvalid
  refine ⟨sums, image, c, hwrite, hopen, hreach, hvalid, ?_, ?_, hlength, ?_, ?_, hsum⟩
  · simp [claimedBlocks, hfiles, hchain]
  · rw [hsize, hfreeBlocks]
  · rw [dataSize, hsize]
    rfl
  · simp [hfiles, hdefect]

end Card
end MemoryCard
