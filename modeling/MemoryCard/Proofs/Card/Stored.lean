import MemoryCard.Proofs.Card.Selection

/-! # What a card has of its image

Whatever has been done with a card, it has the blocks of its image, as far as they count, and the
copies of its directory are those that stand there.
-/

namespace MemoryCard

namespace Directory

@[simp] theorem length_empty (counter : UInt16) : (empty counter).entries.length = slots := by
  simp [empty]

end Directory

namespace Card.Reachable

variable {c : Card}

theorem size_eq (h : c.Reachable) : c.size.toNat = min c.image.blockCount 0xFFFF := by
  obtain ⟨d, a, e⟩ := h.withoutLost_eq
  have hsize : c.size = (min c.image.blockCount 0xFFFF).toUInt16 := congrArg Card.size e
  rw [hsize, Nat.toUInt16_eq, UInt16.toNat_ofNat']
  omega

/-- The card has all system blocks unless the number of its blocks has wrapped around. -/
theorem five_le_size (h : c.Reachable) (hcount : c.image.size / blockSize < 0x100000000) :
    5 ≤ c.size.toNat := by
  have hblocks := Image.five_le_blockCount (ofImage_eq_ok.1 h.eq_run.1).1 hcount
  rw [h.size_eq]
  omega

/-- The image has every block of the card. -/
theorem block_eq_ok (h : c.Reachable) {block : UInt16} (hdata : isDataBlock c.size block = true) :
    ∃ data, c.image.block block.toNat = .ok data := by
  refine ⟨_, Image.block_eq_ok.2 ⟨?_, rfl⟩⟩
  have := (isDataBlock_iff.1 hdata).2
  rw [h.size_eq] at this
  omega

/-- The card has every directory of the image. -/
theorem home_lt_size (h : c.Reachable) {d : Copy} {data : Bytes}
    (hdata : c.image.block (Directory.home d) = .ok data) : Directory.home d < c.size.toNat := by
  have := (Image.block_eq_ok.1 hdata).1
  have := Directory.home_lt d
  rw [h.size_eq]
  omega

/-- Up to the choice between their copies, the tables are what the image has. -/
theorem tables_eq (h : c.Reachable) : c.tables = (Tables.load c.image c.size).use
    c.tables.directories.inUse c.tables.allocations.inUse := by
  obtain ⟨d, a, e⟩ := h.withoutLost_eq
  have htables : c.tables = (Tables.load c.image (opened c.image).size).use d a :=
    congrArg Card.tables e
  have hsize : c.size = (opened c.image).size := (congrArg Card.size e :)
  rw [hsize, htables]
  rfl

/-- The copies of the directory are as their blocks have them. -/
theorem table_directory (h : c.Reachable) (d : Copy) : (c.tables.directories.copy d).table =
    match c.image.block (Directory.home d) with
      | .ok block => Directory.read block
      | .error _ => Directory.empty 0 := by
  rw [h.tables_eq]
  exact Tables.table_load_directory c.image c.size d

/-- A valid copy of the allocation table has the number of free blocks of the card right. -/
theorem isConsistent_of_valid (h : c.Reachable) {a : Copy}
    (hvalid : (c.tables.allocations.copy a).valid = true) :
    (c.tables.allocations.copy a).table.isConsistent c.size = true := by
  rw [h.tables_eq] at hvalid ⊢
  exact Tables.isConsistent_load hvalid

theorem length_directory (h : c.Reachable) (d : Copy) :
    (c.tables.directories.copy d).table.entries.length = Directory.slots := by
  rw [h.table_directory]
  split <;> simp

/-- A slot of the directory stands in the block of that directory, or it is unused for want of a
block. -/
theorem directory_entry (h : c.Reachable) {d : Copy} {slot : Nat} {entry : Entry}
    (hentry : (c.tables.directories.copy d).table.entries[slot]? = some entry) :
    slot < Directory.slots ∧ (entry = .unused ∨
      ∃ data, c.image.block (Directory.home d) = .ok data ∧
        entry = .read data (slot * Entry.width)) := by
  have hslot : slot < Directory.slots := by
    rw [← h.length_directory d]
    exact (List.getElem?_eq_some_iff.1 hentry).1
  refine ⟨hslot, ?_⟩
  rw [h.table_directory] at hentry
  split at hentry
  · rename_i data hdata
    exact .inr ⟨data, hdata, by simpa [Directory.read, hslot, eq_comm] using hentry⟩
  · exact .inl (by simpa [Directory.empty, hslot, eq_comm] using hentry)

end Card.Reachable
end MemoryCard
