import MemoryCard.Proofs.Card.SharedBlocks
import MemoryCard.Proofs.Card.Stored

/-! # The inventory of a card

One pass over the directory lists the regular files, counts the claims on each block, and finds out
which files share blocks with earlier ones. The counts are right since no chain has a block twice or a
system block, and since a byte has room for the claims of as many files as there are slots.
-/

namespace MemoryCard.Card

variable {c : Card}

/-- The regular files are those of the tables in use, and the usage map is right about them. -/
structure IsInventory (c : Card) : Prop where
  /-- The files stand in the order of their slots, at most one for each slot. -/
  ordered : c.regularFiles.Pairwise SaveFile.IsBefore
  origin : ∀ f ∈ c.regularFiles, ∃ slot, f.origin = .regular slot
  /-- Slots in use are listed if a chain can begin with their first block. -/
  listed_iff : ∀ slot entry,
    (∃ f ∈ c.regularFiles, f.origin = .regular slot ∧ f.entry = entry) ↔
      c.tables.directory.entries[slot]? = some entry ∧ entry.isUnused = false ∧
        isDataBlock c.size entry.firstBlock = true ∧
        c.tables.allocation.link? entry.firstBlock ≠ some Allocation.freeLink
  walk_eq : ∀ f ∈ c.regularFiles, c.tables.allocation.walk f.entry.firstBlock f.entry.length c.size =
    .ok ⟨f.chain, f.issues.defect?, f.issues.mismatch?⟩
  size_usage : c.usage.size = c.size.toNat
  system : ∀ b, b.toNat < 5 → b.toNat < c.size.toNat → c.usage.count b = 1
  /-- Claims on data blocks are counted exactly. -/
  data : ∀ b, isDataBlock c.size b = true →
    (c.usage.count b).toNat = c.regularFiles.countP (b ∈ ·.chain)
  /-- No count comes near the limit of a byte. -/
  count_le : ∀ b, (c.usage.count b).toNat ≤ Directory.slots
  crossLinked_iff : ∀ f ∈ c.regularFiles, f.issues.crossLinked = true ↔
    ∃ g ∈ c.regularFiles, g.IsBefore f ∧ ∃ b ∈ f.chain, b ∈ g.chain

namespace Consistent

/-- A used entry with a chain is listed with its slot, and nothing else is listed. -/
theorem exists_regular_iff (h : c.Consistent) {slot : Nat} {entry : Entry} :
    (∃ f ∈ c.regularFiles, f.origin = .regular slot ∧ f.entry = entry) ↔
      c.tables.directory.entries[slot]? = some entry ∧ entry.isUnused = false ∧
        isDataBlock c.size entry.firstBlock = true ∧
        c.tables.allocation.link? entry.firstBlock ≠ some Allocation.freeLink := by
  rw [← and_assoc, ← Directory.mem_used]
  constructor
  · rintro ⟨f, hf, horigin, rfl⟩
    obtain ⟨slot', horigin', hused⟩ := h.exists_slot hf
    cases horigin.symm.trans horigin'
    obtain ⟨hfirst, hfree, -⟩ := Allocation.walk_eq_ok (h.walk_eq hf)
    exact ⟨hused, hfirst, hfree⟩
  · rintro ⟨hused, hfirst, hfree⟩
    obtain ⟨w, hw⟩ := Allocation.exists_walk hfirst hfree entry.length
    obtain ⟨crossLinked, hf⟩ := Listing.exists_mem_build hused hw c.charset (Usage.blank c.size)
    exact ⟨_, h.regularFiles_eq ▸ hf, rfl, rfl⟩

theorem crossLinked_iff (h : c.Consistent) {f : SaveFile} (hf : f ∈ c.regularFiles) :
    f.issues.crossLinked = true ↔
      ∃ g ∈ c.regularFiles, g.IsBefore f ∧ ∃ b ∈ f.chain, b ∈ g.chain := by
  have hdata := (h.proper_regular hf).isData
  rw [h.regularFiles_eq] at hf ⊢
  rw [Listing.crossLinked_iff (Usage.size_blank c.size) c.tables.directory.pairwise_used hf]
  constructor
  · rintro ⟨b, hb, hblank | ⟨g, hg, hbefore, hb'⟩⟩
    · -- the card has been opened with no claim on a data block
      rw [Usage.count_blank_of_isDataBlock (hdata b hb)] at hblank
      exact absurd hblank (UInt8.lt_irrefl 0)
    · exact ⟨g, hg, hbefore, b, hb, hb'⟩
  · rintro ⟨g, hg, hbefore, b, hb, hb'⟩
    exact ⟨b, hb, .inr ⟨g, hg, hbefore, hb'⟩⟩

/-- The files of a directory with no more than its fixed number of slots are counted exactly. -/
theorem toNat_count (h : c.Consistent) (hslots : c.tables.directory.entries.length ≤ 127)
    (b : UInt16) : (c.usage.count b).toNat =
      ((Usage.blank c.size).count b).toNat + c.regularFiles.countP (b ∈ ·.chain) := by
  have hused := c.tables.directory.length_used_le
  have hblank : ((Usage.blank c.size).count b).toNat ≤ 1 := by
    rw [Usage.count_blank]
    split <;> decide
  rw [h.usage_eq, h.regularFiles_eq]
  exact Listing.toNat_count_build (Usage.size_blank c.size) (by omega)

theorem length_regularFiles_le (h : c.Consistent)
    (hslots : c.tables.directory.entries.length ≤ 127) : c.regularFiles.length ≤ 127 := by
  rw [h.regularFiles_eq]
  exact (Listing.length_files_build_le _ _).trans
    (c.tables.directory.length_used_le.trans hslots)

/-- No file has a system block. -/
theorem countP_system (h : c.Consistent) {b : UInt16} (hb : b.toNat < 5) :
    c.regularFiles.countP (b ∈ ·.chain) = 0 := by
  refine List.countP_eq_zero.2 fun f hf hmem ↦ ?_
  have := (isDataBlock_iff.1 ((h.proper_regular hf).isData b (by simpa using hmem))).1
  omega

theorem isInventory (h : c.Consistent) (hslots : c.tables.directory.entries.length ≤ 127) :
    c.IsInventory where
  ordered := h.regularFiles_eq ▸ Listing.pairwise_build _ c.tables.directory.pairwise_used
  origin f hf :=
    have ⟨slot, horigin, _⟩ := h.exists_slot hf
    ⟨slot, horigin⟩
  listed_iff slot entry := h.exists_regular_iff
  walk_eq f := h.walk_eq
  size_usage := by
    rw [h.usage_eq]
    exact (Listing.size_build _ _).trans (Usage.size_blank c.size)
  system b hb hsize := by
    rw [← UInt8.toNat_inj, h.toNat_count hslots, h.countP_system hb, Usage.count_blank,
      if_pos ⟨hsize, hb⟩]
    rfl
  data b hb := by
    rw [h.toNat_count hslots, Usage.count_blank_of_isDataBlock hb, UInt8.toNat_zero, Nat.zero_add]
  count_le b := by
    rw [h.toNat_count hslots, Usage.count_blank]
    split
    · rename_i hsystem
      rw [h.countP_system hsystem.2]
      decide
    · rw [UInt8.toNat_zero, Nat.zero_add]
      exact List.countP_le_length.trans (h.length_regularFiles_le hslots)
  crossLinked_iff f := h.crossLinked_iff

end Consistent

/-- On every card, whatever has been done with it, the list of regular files, the usage map and the
marks of shared blocks are what the tables in use say, and this stays so whichever copies of the tables
are chosen next. The usage map has all system blocks unless the image has more blocks than a 32-bit
word can count. -/
theorem inventory (h : c.Reachable) :
    c.IsInventory ∧
      (∀ d a : Copy, ∃ r, r = Operation.run c [.selectDirectory d.toByte, .selectAllocation a.toByte] ∧
        r.tables = c.tables.use d a ∧ r.IsInventory) ∧
      (c.image.size / blockSize < 0x100000000 → 5 ≤ c.size.toNat) := by
  have hall {r : Card} (hr : r.Reachable) : r.IsInventory :=
    hr.consistent.isInventory (hr.length_directory r.tables.directories.inUse).le
  refine ⟨hall h, fun d a ↦ ⟨_, rfl, ?_, hall (h.run _)⟩, fun hcount ↦ ?_⟩
  · show ((c.selectDirectory d.toByte).card.selectAllocation a.toByte).card.tables = _
    rw [tables_selectAllocation, tables_selectDirectory]
    rfl
  · exact h.five_le_size hcount

/-- Of two files that meet in block 7 the second one is marked, and the block is counted twice. -/
theorem inventory_crossed : ∃ sums image c f g,
    Image.write ⟨.fill (8 * blockSize) 0, none⟩ crossed = .ok (sums, image) ∧
      ofImage image = .ok c ∧ c.Reachable ∧ c.IsInventory ∧ c.regularFiles = [f, g] ∧
      f.chain = [5, 7] ∧ g.chain = [6, 7] ∧ g.issues.crossLinked = true ∧
      (c.usage.count 7).toNat = 2 ∧
      (Operation.run c [.selectDirectory 1, .selectAllocation 0]).IsInventory := by
  obtain ⟨sums, image, c, f, g, hwrite, hopen, hsize, -, -, hfiles, ⟨hslot, hf, -⟩, hslot', hg, -⟩ :=
    exists_crossed
  have hreach : c.Reachable := ⟨image, c, [], hopen, rfl⟩
  have hbefore : f.IsBefore g := ⟨0, 1, hslot, hslot', Nat.zero_lt_one⟩
  obtain ⟨hinventory, hchosen, -⟩ := inventory hreach
  obtain ⟨r, rfl, -, hr⟩ := hchosen 1 0
  refine ⟨sums, image, c, f, g, hwrite, hopen, hreach, hinventory, hfiles, hf, hg, ?_, ?_, hr⟩
  · rw [hinventory.crossLinked_iff g (by simp [hfiles])]
    exact ⟨f, by simp [hfiles], hbefore, 7, by simp [hg], by simp [hf]⟩
  · rw [hinventory.data 7 (by rw [hsize]; rfl), hfiles]
    simp [hf, hg]

end MemoryCard.Card
