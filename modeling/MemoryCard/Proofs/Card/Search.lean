import MemoryCard.Card.Search
import MemoryCard.Proofs.BlockSearch
import MemoryCard.Proofs.Card.Stored
import MemoryCard.Proofs.Sighting

/-! # What a search finds

A search collects the credible entries at all places it looks at, whichever way it goes through the
blocks, and arranges them. No two of these places are the same, and the entry that was found at a
place stands there in the image. What is left of the sightings is therefore settled by the card
alone.
-/

namespace MemoryCard

/-- The distance in bytes of the places at which a search looks. -/
def ScanOptions.step (o : ScanOptions) : Nat := max 1 o.alignment.toNat

theorem ScanOptions.step_pos (o : ScanOptions) : 0 < o.step :=
  Nat.lt_of_lt_of_le Nat.one_pos (Nat.le_max_left _ _)

theorem Entry.isCredible_unused (size : UInt16) : unused.isCredible size = false := by
  have hid : unused.id.all isCodeByte = false := by decide
  simp only [isCredible, hid, Bool.false_and]

/-- No credible entry begins with a zero. -/
theorem Entry.not_isCredible_of_byte_eq_zero {data : Bytes} {pos : Nat} (h : data.byte pos = 0)
    (size : UInt16) : (read data pos).isCredible size = false := by
  refine Bool.eq_false_iff.2 fun hcredible ↦ ?_
  have hbegin := mayBegin_of_isCredible hcredible
  rw [mayBegin, h] at hbegin
  cases hbegin

namespace Directory

theorem lists_eq_false {d : Directory} {e : Entry} : d.lists e = false ↔
    ∀ f ∈ d.entries, f.isUnused = false → ¬ (f.id = e.id ∧ f.fileName = e.fileName) := by
  simp only [Directory.lists, List.any_eq_false, Bool.and_eq_true, Entry.sameFile_iff,
    Bool.not_eq_true', not_and]

end Directory

variable {alignment : UInt64} {l : List Sighting}

namespace Card

variable {c : Card} {o : ScanOptions} {found : List Sighting} {s t : Sighting}

/-! ## Sightings -/

/-- A slot of the copy of the directory that is not in use. -/
def InIdleDirectory (c : Card) (s : Sighting) : Prop :=
  ∃ slot entry, c.tables.directories.idle.entries[slot]? = some entry ∧
    s = .of entry (Directory.home c.tables.directories.inUse.other * blockSize + slot * Entry.width)
      .idleDirectory

/-- A place in a data block that no regular file claims, some steps behind its start. -/
def InBlockPool (c : Card) (step : Nat) (s : Sighting) : Prop :=
  ∃ block k, isDataBlock c.size block = true ∧ c.usage.count block = 0 ∧
    k * step + Entry.width ≤ blockSize ∧
    s = .of (.read c.image.bytes (block.toNat * blockSize + k * step))
      (block.toNat * blockSize + k * step) .blockPool

/-- What a search with these options is after. -/
structure IsSighting (c : Card) (o : ScanOptions) (s : Sighting) : Prop where
  place : (o.idleDirectory = true ∧ c.InIdleDirectory s) ∨
    (o.blockPool = true ∧ c.InBlockPool o.step s)
  credible : s.entry.isCredible c.size = true
  /-- The save is not one that the directory in use lists. -/
  news : o.skipKnown = true → ∀ e ∈ c.tables.directory.entries, e.isUnused = false →
    ¬ (e.id = s.entry.id ∧ e.fileName = s.entry.fileName)

/-- The place of a sighting is on the card and has the entry, and it tells the source. -/
structure Stands (c : Card) (s : Sighting) : Prop where
  inside : s.offset + Entry.width ≤ c.size.toNat * blockSize
  decoded : Entry.decode (c.image.bytes.extract s.offset (s.offset + Entry.width)) = .ok s.entry
  idle : s.source = .idleDirectory ↔
    s.offset / blockSize = Directory.home c.tables.directories.inUse.other
  pool : s.source = .blockPool ↔ ∃ block, isDataBlock c.size block = true ∧
    c.usage.count block = 0 ∧ s.offset / blockSize = block.toNat
  hints : s = .of s.entry s.offset s.source

/-! ## Collecting -/

/-- The credible entries in these blocks, block after block. -/
def scanBlocks (c : Card) (alignment : UInt64) (blocks : List UInt16) :
    Except Failure (List Sighting) := do
  let found ← blocks.mapM (c.scanDataBlock alignment)
  return found.flatten

/-- What a search keeps of the sightings, where `pool` has those in the blocks. -/
def keep (c : Card) (o : ScanOptions) (pool : List Sighting) : List Sighting :=
  let found := (if o.idleDirectory then c.scanIdleDirectory else []) ++ pool
  if o.skipKnown then found.filter fun s ↦ !c.tables.directory.lists s.entry else found

/-- A search that takes up the blocks in the given order. -/
def scanInOrder (c : Card) (o : ScanOptions) (blocks : List UInt16) :
    Except Failure (List Sighting) := do
  let pool ← if o.blockPool then c.scanBlocks o.alignment blocks else .ok []
  return Sighting.arrange (c.keep o pool)

theorem scan_eq_scanInOrder (c : Card) (o : ScanOptions) :
    c.scan o = c.scanInOrder o c.unclaimedBlocks := rfl

/-- The credible entries in one block. -/
def sightingsIn (c : Card) (step : Nat) (block : UInt16) : List Sighting :=
  match c.image.block block.toNat with
  | .ok data => (entryPlaces data.size step).filterMap (sightingAt? data block c.size)
  | .error _ => []

/-- All that a search keeps, before it is arranged. -/
def collect (c : Card) (o : ScanOptions) (blocks : List UInt16) : List Sighting :=
  c.keep o (if o.blockPool then blocks.flatMap (c.sightingsIn o.step) else [])

/-- In a block that is there, a search only panics where its first step leaves no room for an entry
below the end of the addresses. -/
theorem scanDataBlock_of_block_eq_ok {b : UInt16} {data : Bytes}
    (hblock : c.image.block b.toNat = .ok data) : c.scanDataBlock alignment b =
      if addressLimit ≤ max 1 alignment.toNat + Entry.width then .error .panic
      else .ok (c.sightingsIn (max 1 alignment.toNat) b) := by
  have hsize := Image.size_block hblock
  have hmax : (max 1 alignment).toNat = max 1 alignment.toNat := UInt64.toNat_max 1 alignment
  have hstep : 0 < (max 1 alignment).toNat := by omega
  have hstop : addressLimit ≤ stopPlace data.size (max 1 alignment.toNat) + Entry.width ↔
      addressLimit ≤ max 1 alignment.toNat + Entry.width := by
    rw [← Nat.not_lt, ← Nat.not_lt, hsize, stopPlace_lt_iff (hmax ▸ hstep)]
  simp only [scanDataBlock, sightingsIn, hblock]
  rw [scanBlock_eq (by rw [hsize]; decide) hstep, hmax]
  simp only [hstop]

theorem scanDataBlock_of_block_eq_error {b : UInt16} {failure : Failure}
    (hblock : c.image.block b.toNat = .error failure) : c.scanDataBlock alignment b = .ok [] := by
  rw [scanDataBlock, hblock]

theorem scanDataBlock_eq_ok (h : max 1 alignment.toNat + Entry.width < addressLimit) (b : UInt16) :
    c.scanDataBlock alignment b = .ok (c.sightingsIn (max 1 alignment.toNat) b) := by
  cases hblock : c.image.block b.toNat with
  | ok data => rw [scanDataBlock_of_block_eq_ok hblock, if_neg (Nat.not_le.2 h)]
  | error failure => rw [scanDataBlock_of_block_eq_error hblock, sightingsIn, hblock]

theorem eq_of_scanDataBlock_eq_ok {b : UInt16} (h : c.scanDataBlock alignment b = .ok l) :
    l = c.sightingsIn (max 1 alignment.toNat) b := by
  cases hblock : c.image.block b.toNat with
  | ok data =>
      rw [scanDataBlock_of_block_eq_ok hblock] at h
      split at h
      · cases h
      · exact (Except.ok.inj h).symm
  | error failure =>
      rw [scanDataBlock_of_block_eq_error hblock] at h
      rw [sightingsIn, hblock]
      exact (Except.ok.inj h).symm

theorem scanBlocks_eq_ok {blocks : List UInt16}
    (h : max 1 alignment.toNat + Entry.width < addressLimit) : c.scanBlocks alignment blocks =
      .ok (blocks.flatMap (c.sightingsIn (max 1 alignment.toNat))) := by
  rw [scanBlocks, mapM_eq_ok fun b _ ↦ scanDataBlock_eq_ok h b]
  rfl

theorem eq_of_scanBlocks_eq_ok {blocks : List UInt16} (h : c.scanBlocks alignment blocks = .ok l) :
    l = blocks.flatMap (c.sightingsIn (max 1 alignment.toNat)) := by
  obtain ⟨found, hfound, h⟩ := bind_eq_ok.1 h
  cases h
  exact congrArg List.flatten (eq_map_of_mapM_eq_ok (fun _ _ ↦ eq_of_scanDataBlock_eq_ok) hfound)

theorem scanInOrder_eq_ok (h : o.step < 0x8000000000000000) (blocks : List UInt16) :
    c.scanInOrder o blocks = .ok (Sighting.arrange (c.collect o blocks)) := by
  have hfits : o.step + Entry.width < addressLimit := by
    simp only [Entry.width, addressLimit]
    omega
  unfold scanInOrder collect
  rw [scanBlocks_eq_ok hfits]
  cases o.blockPool <;> rfl

theorem eq_of_scanInOrder_eq_ok {blocks : List UInt16} (h : c.scanInOrder o blocks = .ok found) :
    found = Sighting.arrange (c.collect o blocks) := by
  unfold scanInOrder collect at *
  split at h
  · rename_i hpool
    obtain ⟨pool, hscan, h⟩ := bind_eq_ok.1 h
    cases h
    rw [if_pos hpool, eq_of_scanBlocks_eq_ok hscan]
    rfl
  · rename_i hpool
    cases h
    rw [if_neg hpool]

/-! ## What is collected -/

theorem mem_unclaimedBlocks {block : UInt16} :
    block ∈ c.unclaimedBlocks ↔ isDataBlock c.size block = true ∧ c.usage.count block = 0 := by
  rw [unclaimedBlocks, List.mem_filter, mem_dataBlockList, beq_iff_eq]

theorem mem_scanIdleDirectory (h : c.tables.directories.idle.entries.length ≤ Directory.slots) :
    s ∈ c.scanIdleDirectory ↔ c.InIdleDirectory s ∧ s.entry.isCredible c.size = true := by
  rw [scanIdleDirectory, List.take_of_length_le h, List.mem_filterMap]
  constructor
  · rintro ⟨⟨entry, slot⟩, hmem, hs⟩
    dsimp only at hs
    split at hs
    · rename_i hcredible
      cases hs
      exact ⟨⟨slot, entry, List.mem_zipIdx_iff_getElem?.1 hmem, rfl⟩, hcredible⟩
    · cases hs
  · rintro ⟨⟨slot, entry, hentry, rfl⟩, hcredible⟩
    refine ⟨(entry, slot), List.mem_zipIdx_iff_getElem?.2 hentry, ?_⟩
    exact if_pos hcredible

theorem mem_sightingsIn {step : Nat} (hstep : 0 < step) {block : UInt16} :
    s ∈ c.sightingsIn step block ↔ block.toNat < c.image.blockCount ∧
      (∃ k, k * step + Entry.width ≤ blockSize ∧
        s = .of (.read c.image.bytes (block.toNat * blockSize + k * step))
          (block.toNat * blockSize + k * step) .blockPool) ∧ s.entry.isCredible c.size = true := by
  unfold sightingsIn
  cases hblock : c.image.block block.toNat with
  | error failure =>
      have hout : ¬ block.toNat < c.image.blockCount := fun hin ↦ by
        rw [Image.block_eq_ok.2 ⟨hin, rfl⟩] at hblock
        cases hblock
      simp [hout]
  | ok data =>
      have hin := (Image.block_eq_ok.1 hblock).1
      simp only [List.mem_filterMap, mem_entryPlaces hstep, Image.size_block hblock, hin, true_and]
      constructor
      · rintro ⟨_, ⟨k, rfl, hk⟩, hs⟩
        rw [sightingAt?_eq, (Image.read_block hblock hk).1] at hs
        split at hs
        · rename_i hcredible
          cases hs
          exact ⟨⟨k, hk, rfl⟩, hcredible⟩
        · cases hs
      · rintro ⟨⟨k, hk, rfl⟩, hcredible⟩
        refine ⟨k * step, ⟨k, rfl, hk⟩, ?_⟩
        rw [sightingAt?_eq, (Image.read_block hblock hk).1]
        exact if_pos hcredible

theorem mem_keep {pool : List Sighting} : s ∈ c.keep o pool ↔
    ((o.idleDirectory = true ∧ s ∈ c.scanIdleDirectory) ∨ s ∈ pool) ∧
      (o.skipKnown = true → c.tables.directory.lists s.entry = false) := by
  unfold keep
  cases o.idleDirectory <;> cases o.skipKnown <;> simp [or_and_right]

/-! ## Sightings on cards that can be reached -/

namespace Reachable

/-- A credible entry of the directory that is not in use stands in the block of that directory. -/
theorem idle_entry (h : c.Reachable) {slot : Nat} {entry : Entry}
    (hentry : c.tables.directories.idle.entries[slot]? = some entry)
    (hcredible : entry.isCredible c.size = true) :
    slot < Directory.slots ∧
      ∃ data, c.image.block (Directory.home c.tables.directories.inUse.other) = .ok data ∧
        entry = .read data (slot * Entry.width) := by
  obtain ⟨hslot, rfl | hdata⟩ := h.directory_entry hentry
  · rw [Entry.isCredible_unused] at hcredible
    cases hcredible
  · exact ⟨hslot, hdata⟩

end Reachable

/-- An entry in the block of the idle directory stands where its slot is. -/
theorem stands_idle {home slot : Nat} {data : Bytes} (hslot : slot < Directory.slots)
    (hhome : home = Directory.home c.tables.directories.inUse.other) (hsize : home < c.size.toNat)
    (h : c.image.block home = .ok data) :
    c.Stands (.of (.read data (slot * Entry.width)) (home * blockSize + slot * Entry.width)
      .idleDirectory) := by
  have hpos := Directory.slot_fits hslot
  have hsystem : home < 5 := hhome ▸ Directory.home_lt _
  obtain ⟨hread, hinside⟩ := Image.read_block h hpos
  refine ⟨Image.entry_fits hsize hpos, ?_, ?_, ?_, rfl⟩
  · rw [hread]
    exact Entry.decode_extract _ hinside
  · exact iff_of_true rfl ((Image.div_blockSize hpos).trans hhome)
  · refine iff_of_false (by simp [Sighting.of]) fun ⟨block, hdata, _, hblock⟩ ↦ ?_
    have hsame : home = block.toNat := (Image.div_blockSize hpos).symm.trans hblock
    have := (isDataBlock_iff.1 hdata).1
    omega

/-- An entry in an unclaimed block stands in that block. -/
theorem stands_pool {block : UInt16} {data : Bytes} {pos : Nat}
    (hdata : isDataBlock c.size block = true) (hfree : c.usage.count block = 0)
    (h : c.image.block block.toNat = .ok data) (hpos : pos + Entry.width ≤ blockSize) :
    c.Stands (.of (.read c.image.bytes (block.toNat * blockSize + pos))
      (block.toNat * blockSize + pos) .blockPool) := by
  have hbounds := isDataBlock_iff.1 hdata
  refine ⟨Image.entry_fits hbounds.2 hpos, ?_, ?_, ?_, rfl⟩
  · exact Entry.decode_extract _ (Image.read_block h hpos).2
  · refine iff_of_false (by simp [Sighting.of]) fun hblock ↦ ?_
    have hsame := (Image.div_blockSize hpos).symm.trans hblock
    have := Directory.home_lt c.tables.directories.inUse.other
    omega
  · exact iff_of_true rfl ⟨block, hdata, hfree, Image.div_blockSize hpos⟩

theorem IsSighting.stands (h : c.Reachable) (hs : c.IsSighting o s) : c.Stands s := by
  rcases hs.place with ⟨-, slot, entry, hentry, rfl⟩ | ⟨-, block, k, hdata, hfree, hk, rfl⟩
  · obtain ⟨hslot, data, hblock, rfl⟩ := h.idle_entry hentry hs.credible
    exact stands_idle hslot rfl (h.home_lt_size hblock) hblock
  · obtain ⟨data, hblock⟩ := h.block_eq_ok hdata
    exact stands_pool hdata hfree hblock hk

/-- The place of a sighting determines the rest of it. -/
theorem Stands.eq_of_offset_eq (hs : c.Stands s) (ht : c.Stands t) (h : s.offset = t.offset) :
    s = t := by
  have hentry : s.entry = t.entry := by
    have hdecoded := hs.decoded
    rw [h, ht.decoded] at hdecoded
    exact (Except.ok.inj hdecoded).symm
  have hidle : s.source = .idleDirectory ↔ t.source = .idleDirectory := by rw [hs.idle, ht.idle, h]
  -- there are two sources only, so it is enough that the place decides about one of them
  have hsource : s.source = t.source := by
    cases hs' : s.source <;> cases ht' : t.source <;> simp [hs', ht'] at hidle ⊢
  rw [hs.hints, ht.hints, hentry, h, hsource]

/-! ## The result -/

theorem mem_collect (h : c.Reachable) {blocks : List UInt16}
    (hblocks : ∀ b, b ∈ blocks ↔ b ∈ c.unclaimedBlocks) :
    s ∈ c.collect o blocks ↔ c.IsSighting o s := by
  have hstep := o.step_pos
  have hpool : s ∈ (if o.blockPool then blocks.flatMap (c.sightingsIn o.step) else []) ↔
      (o.blockPool = true ∧ c.InBlockPool o.step s) ∧ s.entry.isCredible c.size = true := by
    cases o.blockPool with
    | false => simp
    | true =>
        simp only [if_true, List.mem_flatMap, hblocks, mem_unclaimedBlocks, mem_sightingsIn hstep,
          true_and]
        constructor
        · rintro ⟨block, ⟨hdata, hfree⟩, -, ⟨k, hk, hs⟩, hcredible⟩
          exact ⟨⟨block, k, hdata, hfree, hk, hs⟩, hcredible⟩
        · rintro ⟨⟨block, k, hdata, hfree, hk, hs⟩, hcredible⟩
          obtain ⟨data, hblock⟩ := h.block_eq_ok hdata
          exact ⟨block, ⟨hdata, hfree⟩, (Image.block_eq_ok.1 hblock).1, ⟨k, hk, hs⟩, hcredible⟩
  rw [collect, mem_keep, hpool, mem_scanIdleDirectory (h.length_directory _).le,
    Directory.lists_eq_false, ← and_assoc, ← or_and_right]
  exact ⟨fun ⟨⟨hplace, hcredible⟩, hnews⟩ ↦ ⟨hplace, hcredible, hnews⟩,
    fun ⟨hplace, hcredible, hnews⟩ ↦ ⟨⟨hplace, hcredible⟩, hnews⟩⟩

/-- A list has what a search is to find: of each save with each first block, the first sighting. -/
structure IsSearchResult (c : Card) (o : ScanOptions) (found : List Sighting) : Prop where
  increasing : found.Pairwise fun s t ↦ s.offset < t.offset
  keys : found.Pairwise fun s t ↦ s.key ≠ t.key
  mem_iff : ∀ s, s ∈ found ↔
    c.IsSighting o s ∧ ∀ t, c.IsSighting o t → t.key = s.key → s.offset ≤ t.offset
  covered : ∀ t, c.IsSighting o t → ∃ s ∈ found, s.key = t.key
  stands : ∀ s ∈ found, c.Stands s

theorem distinct_collect (h : c.Reachable) {blocks : List UInt16}
    (hblocks : ∀ b, b ∈ blocks ↔ b ∈ c.unclaimedBlocks) : Sighting.Distinct (c.collect o blocks) :=
  fun _ hs _ ht ↦ (((mem_collect h hblocks).1 hs).stands h).eq_of_offset_eq
    (((mem_collect h hblocks).1 ht).stands h)

theorem arrange_isSearchResult (h : c.Reachable) :
    c.IsSearchResult o (Sighting.arrange (c.collect o c.unclaimedBlocks)) := by
  have hmem (s : Sighting) : s ∈ c.collect o c.unclaimedBlocks ↔ c.IsSighting o s :=
    mem_collect h fun _ ↦ Iff.rfl
  have hdistinct : Sighting.Distinct (c.collect o c.unclaimedBlocks) :=
    distinct_collect h fun _ ↦ Iff.rfl
  refine ⟨Sighting.pairwise_offset_arrange hdistinct, Sighting.pairwise_key_firstOfEach _,
    ?_, ?_, ?_⟩
  · intro s
    simp only [Sighting.mem_arrange hdistinct, hmem]
  · intro t ht
    obtain ⟨s, hs, hkey, -⟩ := Sighting.exists_mem_arrange ((hmem t).2 ht)
    exact ⟨s, hs, hkey⟩
  · intro s hs
    exact ((hmem s).1 (Sighting.mem_of_mem_arrange hs)).stands h

theorem isSearchResult_of_scan (h : c.Reachable) (hscan : c.scan o = .ok found) :
    c.IsSearchResult o found := by
  rw [eq_of_scanInOrder_eq_ok hscan]
  exact arrange_isSearchResult h

/-! ## A card with one lost save -/

/-- The entry of a save of two blocks. -/
def strayEntry : Entry where
  gameCode := #v[0x47, 0x41, 0x4C, 0x45]
  maker := #v[0x30, 0x31]
  reserved := 0xFF
  bannerFormat := 0
  fileName := .replicate 32 0x41
  modified := 0
  imageAddress := 0
  iconFormat := 0
  iconSpeed := 0
  permission := 0
  copies := 0
  firstBlock := 6
  length := 2
  reserved2 := 0xFFFF
  commentAddress := 0

/-- Eight blocks of zeros, but for the entry at the start of the first data block. -/
def strayBytes : Bytes := .padded (5 * blockSize) strayEntry.encode (3 * blockSize - Entry.width)

theorem size_strayBytes : strayBytes.size = 8 * blockSize := by
  rw [← Bytes.length_all, strayBytes, Bytes.padded, Bytes.all_toByteArray]
  simp only [List.length_append, List.length_replicate, Entry.length_encode]
  rfl

theorem byte_strayBytes {pos : Nat} (h : pos < 5 * blockSize ∨ 5 * blockSize + Entry.width ≤ pos) :
    strayBytes.byte pos = 0 := by
  rw [← Entry.length_encode strayEntry] at h
  rw [strayBytes]
  exact Bytes.byte_padded h

theorem agree_strayBytes : Bytes.Agree Entry.width strayBytes (5 * blockSize)
    strayEntry.encode.toByteArray 0 := by
  rw [← Entry.length_encode strayEntry, strayBytes]
  exact Bytes.agree_padded _ _ strayEntry.encode

theorem read_strayBytes : Entry.read strayBytes (5 * blockSize) = strayEntry := by
  have hread : Entry.read strayEntry.encode.toByteArray 0 = strayEntry := by decide
  exact (Entry.read_congr agree_strayBytes).trans hread

/-- Where the card has zeros only, no entry is credible. -/
theorem not_isCredible_strayBytes {size : UInt16} {pos : Nat}
    (h : pos < 5 * blockSize ∨ 5 * blockSize + Entry.width ≤ pos) :
    (Entry.read strayBytes pos).isCredible size = false :=
  Entry.not_isCredible_of_byte_eq_zero (byte_strayBytes h) size

/-- A card on which the save is lost. -/
def strayCard : Card := opened ⟨strayBytes, none⟩

theorem blockCount_strayBytes (path? : Option String) :
    (Image.mk strayBytes path?).blockCount = 8 := by
  rw [Image.blockCount, Image.size, size_strayBytes]
  rfl

theorem bytes_strayCard : strayCard.image.bytes = strayBytes := by
  rw [strayCard, opened]

theorem reachable_strayCard : strayCard.Reachable := by
  refine ⟨_, _, [], ofImage_eq_opened ?_ ?_, rfl⟩
  · rw [Image.size, size_strayBytes]
    decide
  · rw [blockCount_strayBytes]
    decide

theorem size_strayCard : strayCard.size = 8 := by
  have hsize := reachable_strayCard.size_eq
  rw [show strayCard.image.blockCount = 8 from blockCount_strayBytes none] at hsize
  exact UInt16.toNat_inj.1 hsize

/-- The directories of the card have nothing but zeros. -/
theorem directory_strayCard {d : Copy} {entry : Entry}
    (h : entry ∈ (strayCard.tables.directories.copy d).table.entries) :
    entry = .unused ∨ entry = .read .empty 0 := by
  obtain ⟨slot, hslot⟩ := List.mem_iff_getElem?.1 h
  obtain ⟨hlt, rfl | ⟨data, hdata, rfl⟩⟩ := reachable_strayCard.directory_entry hslot
  · exact .inl rfl
  · refine .inr ?_
    have hpos := Directory.slot_fits hlt
    have hfits := Image.entry_fits (Directory.home_lt d) hpos
    rw [(Image.read_block hdata hpos).1, bytes_strayCard]
    refine Entry.read_congr fun i hi ↦ ?_
    have hbefore := Nat.lt_of_lt_of_le (Nat.add_lt_add_left hi _) hfits
    rw [Bytes.byte_empty, byte_strayBytes (.inl hbefore)]

theorem files_strayCard : strayCard.files = [] := by
  have hregular : strayCard.regularFiles = [] := by
    refine List.eq_nil_iff_forall_not_mem.2 fun f hf ↦ ?_
    rw [reachable_strayCard.consistent.regularFiles_eq] at hf
    obtain ⟨hentry, hdata⟩ := Listing.ofTables_entry hf
    rw [Tables.directory, Copies.current] at hentry
    rw [size_strayCard] at hdata
    have hnone : isDataBlock 8 Entry.unused.firstBlock = false ∧
        isDataBlock 8 (Entry.read .empty 0).firstBlock = false := by decide
    rcases directory_strayCard hentry with e | e
    · rw [e, hnone.1] at hdata
      cases hdata
    · rw [e, hnone.2] at hdata
      cases hdata
  have hlost : strayCard.lostFiles = [] := by
    rw [strayCard, ← relist_opened, lostFiles_relist]
  rw [files_eq, hregular, hlost, List.append_nil]

theorem count_strayCard {block : UInt16} (h : isDataBlock strayCard.size block = true) :
    strayCard.usage.count block = 0 := by
  refine (reachable_strayCard.consistent.count_eq_zero h).2 fun f hf ↦ ?_
  rw [regularFiles, files_strayCard, List.take_nil] at hf
  cases hf

/-- The entry in the first data block is all that there is to be seen on the card. -/
theorem isSighting_strayCard :
    strayCard.IsSighting {} s ↔ s = .of strayEntry (5 * blockSize) .blockPool := by
  constructor
  · rintro ⟨⟨-, slot, entry, hentry, rfl⟩ | ⟨-, block, k, hdata, -, hk, rfl⟩, hcredible, -⟩
    · rw [Copies.idle] at hentry
      have hnone : (Entry.read .empty 0).isCredible strayCard.size = false := by
        rw [size_strayCard]
        decide
      rcases directory_strayCard (List.mem_of_getElem? hentry) with rfl | rfl
      · rw [Sighting.of, Entry.isCredible_unused] at hcredible
        cases hcredible
      · rw [Sighting.of, hnone] at hcredible
        cases hcredible
    · rw [show ScanOptions.step {} = 64 from rfl, bytes_strayCard] at *
      obtain ⟨pos, hpos⟩ : ∃ pos, pos = block.toNat * blockSize + k * 64 := ⟨_, rfl⟩
      rw [← hpos] at hcredible ⊢
      by_cases hzero : pos < 5 * blockSize ∨ 5 * blockSize + Entry.width ≤ pos
      · rw [Sighting.of, not_isCredible_strayBytes hzero] at hcredible
        cases hcredible
      · have hstart : pos = 5 * blockSize := by
          simp only [blockSize, Entry.width] at *
          omega
        rw [hstart, read_strayBytes]
  · rintro rfl
    have hdata : isDataBlock strayCard.size 5 = true := by
      rw [size_strayCard]
      decide
    have hplace : (5 : UInt16).toNat * blockSize + 0 * ScanOptions.step {} = 5 * blockSize := rfl
    refine ⟨.inr ⟨rfl, 5, 0, hdata, count_strayCard hdata, by decide, ?_⟩, ?_, ?_⟩
    · rw [hplace, bytes_strayCard, read_strayBytes]
    · rw [size_strayCard]
      decide
    · rintro - e he - ⟨hid, -⟩
      have hother : Entry.unused.id ≠ strayEntry.id ∧ (Entry.read .empty 0).id ≠ strayEntry.id := by
        decide
      rw [Tables.directory, Copies.current] at he
      rcases directory_strayCard he with rfl | rfl
      · exact hother.1 hid
      · exact hother.2 hid

/-- A list that has what is to be found on the card has the lost save and nothing else. -/
theorem eq_of_isSearchResult_strayCard (h : strayCard.IsSearchResult {} found) :
    found = [.of strayEntry (5 * blockSize) .blockPool] := by
  refine Sighting.eq_of_mem_iff h.increasing (List.pairwise_singleton _ _) fun s ↦ ?_
  rw [h.mem_iff, isSighting_strayCard, List.mem_singleton]
  refine and_iff_left_of_imp ?_
  rintro rfl t ht -
  rw [isSighting_strayCard.1 ht]

theorem scan_strayCard : strayCard.scan {} = .ok [.of strayEntry (5 * blockSize) .blockPool] := by
  rw [scan_eq_scanInOrder, scanInOrder_eq_ok (by decide)]
  exact congrArg _ (eq_of_isSearchResult_strayCard (arrange_isSearchResult reachable_strayCard))

/-! ## Searching -/

/-- On every card that can be reached, a search with steps below half of the address space finds
exactly what it should, in whichever order it takes up the blocks. -/
theorem scan_exact (h : c.Reachable) (hstep : o.step < 0x8000000000000000) :
    ∃ found, c.scan o = .ok found ∧ c.IsSearchResult o found ∧
      ∀ order, order.Perm c.unclaimedBlocks → c.scanInOrder o order = .ok found := by
  refine ⟨_, scanInOrder_eq_ok hstep _, arrange_isSearchResult h, fun order horder ↦ ?_⟩
  rw [scanInOrder_eq_ok hstep]
  have hblocks (b : UInt16) : b ∈ order ↔ b ∈ c.unclaimedBlocks := horder.mem_iff
  refine congrArg Except.ok (Sighting.arrange_congr (distinct_collect h hblocks) fun s ↦ ?_)
  rw [mem_collect h hblocks, mem_collect h fun _ ↦ Iff.rfl]

/-- On a card with one lost save, a search with the usual options finds it. -/
theorem scan_exact_strayCard :
    strayCard.Reachable ∧ ScanOptions.step {} < 0x8000000000000000 ∧
      strayCard.scan {} = .ok [.of strayEntry (5 * blockSize) .blockPool] := by
  have hstep : ScanOptions.step {} < 0x8000000000000000 := by decide
  obtain ⟨found, hscan, hresult, -⟩ := scan_exact reachable_strayCard hstep
  rw [eq_of_isSearchResult_strayCard hresult] at hscan
  exact ⟨reachable_strayCard, hstep, hscan⟩

end Card
end MemoryCard
