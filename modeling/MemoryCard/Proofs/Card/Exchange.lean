import MemoryCard.Proofs.Card.Damage

/-! # Copies in each other's place

A card keeps the two copies of a table in two blocks. If the blocks change places, the card uses the
same copies as before and shows the same files, as long as one copy of each table is the right one for
a reason of its own: it alone is valid, or its counter is the newer one from both sides.
-/

namespace MemoryCard

open Bytes

/-! ## Blocks that change places -/

namespace Image

variable {image image' : Image}

/-- The image with the copies of both tables in each other's place. -/
def exchange (image : Image) : Except Failure Image := do
  let directory₀ ← image.block 1
  let directory₁ ← image.block 2
  let allocation₀ ← image.block 3
  let allocation₁ ← image.block 4
  return image.setBlocks 1 [directory₁, directory₀, allocation₁, allocation₀]

/-- The block that changes places with the one at `index`. -/
def partner : Nat → Nat
  | 1 => 2
  | 2 => 1
  | 3 => 4
  | 4 => 3
  | index => index

theorem exists_exchange (h : 5 ≤ image.blockCount) : ∃ image', image.exchange = .ok image' := by
  have hblock (k : Nat) (hk : k < 5) := block_eq_ok.2 ⟨Nat.lt_of_lt_of_le hk h, rfl⟩
  rw [exchange, hblock 1 (by decide), hblock 2 (by decide), hblock 3 (by decide),
    hblock 4 (by decide)]
  exact ⟨_, rfl⟩

/-- Each block is where its partner was. -/
theorem block_exchange (h : image.exchange = .ok image') (index : Nat) :
    image'.block index = image.block (partner index) := by
  obtain ⟨directory₀, hd₀, h⟩ := bind_eq_ok.1 h
  obtain ⟨directory₁, hd₁, h⟩ := bind_eq_ok.1 h
  obtain ⟨allocation₀, ha₀, h⟩ := bind_eq_ok.1 h
  obtain ⟨allocation₁, ha₁, h⟩ := bind_eq_ok.1 h
  cases h
  have hcount : 4 < image.blockCount := (block_eq_ok.1 ha₁).1
  have hfits : (1 + 4) * blockSize ≤ image.size := by
    rw [Nat.add_comm 1 4, Nat.succ_mul]
    exact block_fits hcount
  have hsize : ∀ block ∈ [directory₁, directory₀, allocation₁, allocation₀],
      block.size = blockSize := by
    simp only [List.forall_mem_cons]
    exact ⟨size_block hd₁, size_block hd₀, size_block ha₁, size_block ha₀, nofun⟩
  have hinside (k : Nat) (hk : k < 4) := block_setBlocks_inside hsize hfits hk (by omega)
  match index with
  | 0 => exact block_setBlocks_outside hsize hfits (.inl (by decide))
  | 1 => exact (hinside 0 (by decide)).trans hd₁.symm
  | 2 => exact (hinside 1 (by decide)).trans hd₀.symm
  | 3 => exact (hinside 2 (by decide)).trans ha₁.symm
  | 4 => exact (hinside 3 (by decide)).trans ha₀.symm
  | index + 5 => exact block_setBlocks_outside hsize hfits (.inr (Nat.le_add_left 5 index))

theorem size_exchange (h : image.exchange = .ok image') : image'.size = image.size := by
  obtain ⟨_, -, h⟩ := bind_eq_ok.1 h
  obtain ⟨_, -, h⟩ := bind_eq_ok.1 h
  obtain ⟨_, -, h⟩ := bind_eq_ok.1 h
  obtain ⟨_, -, h⟩ := bind_eq_ok.1 h
  cases h
  exact size_setBlocks _ _ _

end Image

theorem Directory.partner_home (d : Copy) : Image.partner (home d) = home d.other := by
  match d with
  | 0 => rfl
  | 1 => rfl

theorem Allocation.partner_home (a : Copy) : Image.partner (home a) = home a.other := by
  match a with
  | 0 => rfl
  | 1 => rfl

/-- Copies that are read from blocks follow these where they change places. -/
theorem Copies.exchanged_ofBlocks {α : Type} {number : α → UInt16} {standIn : α}
    {ofBlock : Bytes → Checked α} {home : Copy → Nat} {image image' : Image}
    (hblocks : ∀ c, image'.block (home c) = image.block (home c.other))
    (h : (ofBlocks number standIn ofBlock home image).IsDecided number) :
    (ofBlocks number standIn ofBlock home image).Exchanged
      (ofBlocks number standIn ofBlock home image') := by
  have hcopies : ofBlocks number standIn ofBlock home image' = ofEach number fun c ↦
      Checked.ofResult standIn ((image.block (home c.other)).map ofBlock) := by
    simp only [ofBlocks, hblocks]
  rw [hcopies]
  exact exchanged_ofEach h

/-! ## Cards -/

/-- The regular files depend on the tables in use only. -/
theorem Listing.ofTables_congr {t t' : Tables} (size : UInt16) (charset : Charset)
    (hdirectory : t'.directory = t.directory) (hallocation : t'.allocation = t.allocation) :
    ofTables t' size charset = ofTables t size charset := by
  rw [ofTables, ofTables, hdirectory, hallocation]

namespace Card

variable {image image' : Image} {c : Card}

/-- The cards are the same but for the places of the copies of their tables: where one uses the first
copy, the other uses the second. -/
structure Exchanged (c c' : Card) : Prop where
  directories : c.tables.directories.Exchanged c'.tables.directories
  allocations : c.tables.allocations.Exchanged c'.tables.allocations
  directory : c'.tables.directory = c.tables.directory
  allocation : c'.tables.allocation = c.tables.allocation
  header : c'.header = c.header
  headerSum : c'.headerSum = c.headerSum
  size : c'.size = c.size
  files : c'.files = c.files
  regularCount : c'.regularCount = c.regularCount
  usage : c'.usage = c.usage
  free : c'.free = c.free
  conditions : c'.conditions = c.conditions

theorem directories_exchange (h : image.exchange = .ok image')
    (hdecided : (opened image).tables.directories.IsDecided Directory.counter) :
    (opened image).tables.directories.Exchanged (opened image').tables.directories := by
  simp only [opened, Tables.directories_eq_ofBlocks] at hdecided ⊢
  refine Copies.exchanged_ofBlocks (fun d ↦ ?_) hdecided
  rw [Image.block_exchange h, Directory.partner_home]

theorem size_opened_exchange (h : image.exchange = .ok image') :
    (opened image').size = (opened image).size := by
  simp only [opened, Image.blockCount, Image.size_exchange h]

theorem allocations_exchange (h : image.exchange = .ok image')
    (hdecided : (opened image).tables.allocations.IsDecided Allocation.counter) :
    (opened image).tables.allocations.Exchanged (opened image').tables.allocations := by
  have hload : (opened image').tables.allocations =
      (Tables.load image' (opened image).size).allocations := by
    rw [← size_opened_exchange h]
    rfl
  rw [hload]
  simp only [opened, Tables.allocations_eq_ofBlocks] at hdecided ⊢
  refine Copies.exchanged_ofBlocks (fun a ↦ ?_) hdecided
  rw [Image.block_exchange h, Allocation.partner_home]

theorem exchanged_opened (h : image.exchange = .ok image') (hcount : 0 < image.blockCount)
    (hdirectories : (opened image).tables.directories.IsDecided Directory.counter)
    (hallocations : (opened image).tables.allocations.IsDecided Allocation.counter) :
    (opened image).Exchanged (opened image') := by
  have hdirectories := directories_exchange h hdirectories
  have hallocations := allocations_exchange h hallocations
  have hdirectory : (opened image').tables.directory = (opened image).tables.directory :=
    hdirectories.current
  have hallocation : (opened image').tables.allocation = (opened image).tables.allocation :=
    hallocations.current
  have hsize := size_opened_exchange h
  have hfront : image'.bytes.extract 0 blockSize = image.bytes.extract 0 blockSize := by
    have hblock : image.block 0 = .ok (image.bytes.extract 0 blockSize) := by
      rw [Image.block_eq_ok]
      exact ⟨hcount, by simp⟩
    obtain ⟨-, hfront⟩ := Image.block_eq_ok.1 ((Image.block_exchange h 0).trans hblock)
    simpa using hfront.symm
  have hheader : (opened image').header = (opened image).header := by
    simp only [opened, hfront]
  have hlisting : Listing.ofTables (opened image').tables (opened image').size
      (opened image').charset =
      Listing.ofTables (opened image).tables (opened image).size (opened image).charset := by
    rw [charset, hheader, hsize]
    exact Listing.ofTables_congr _ _ hdirectory hallocation
  have hsum : (opened image').headerSum = (opened image).headerSum := by
    simp only [opened, hfront]
  exact {
    directories := hdirectories
    allocations := hallocations
    directory := hdirectory
    allocation := hallocation
    header := hheader
    headerSum := hsum
    size := hsize
    files := by
      rw [← relist_opened image', ← relist_opened image, files_relist, files_relist, hlisting]
    regularCount := by
      rw [← relist_opened image', ← relist_opened image, regularCount_relist, regularCount_relist,
        hlisting]
    usage := by
      rw [← relist_opened image', ← relist_opened image, usage_relist, usage_relist, hlisting]
    free := congrArg Allocation.free hallocation
    conditions := Conditions.ext_has fun x ↦ by
      rw [has_conditions_opened, has_conditions_opened, hsum, hdirectories.bothInvalid,
        hallocations.bothInvalid, Image.size_exchange h] }

/-- It makes no difference in which of its two blocks a copy of a table is kept. Where the copies of
both tables change places, and for each table one copy alone is valid or one counter is newer from both
sides, the image opens as a card with the same tables in use, the same files and the same conditions.
The card knows of the same choices under the other names. -/
theorem exchanged_ofImage (hopen : ofImage image = .ok c) :
    (image.size / blockSize < 0x100000000 → ∃ image', image.exchange = .ok image') ∧
      ∀ image', image.exchange = .ok image' →
        c.tables.directories.IsDecided Directory.counter →
        c.tables.allocations.IsDecided Allocation.counter →
        ∃ c', ofImage image' = .ok c' ∧ c.Exchanged c' := by
  obtain ⟨hsize, hcount, rfl⟩ := ofImage_eq_ok.1 hopen
  constructor
  · intro hblocks
    exact Image.exists_exchange (Image.five_le_blockCount hsize hblocks)
  · intro image' hexchange hdirectories hallocations
    have hsize' := Image.size_exchange hexchange
    refine ⟨opened image', ofImage_eq_opened (by rwa [hsize']) ?_, ?_⟩
    · rwa [Image.blockCount, hsize', ← Image.blockCount]
    · exact exchanged_opened hexchange hcount hdirectories hallocations

/-- On a card of eight blocks with empty tables, the second copies are in use. After they have changed
places with the first ones, the first copies are. -/
theorem exchanged_ofImage_blank : ∃ sums image c image' c',
    Image.write ⟨.fill (8 * blockSize) 0, none⟩ (.blank (.read .empty) 8) = .ok (sums, image) ∧
    ofImage image = .ok c ∧
    c.tables.directories.inUse = 1 ∧ c.tables.allocations.inUse = 1 ∧
    image.exchange = .ok image' ∧ ofImage image' = .ok c' ∧
    c'.tables.directories.inUse = 0 ∧ c'.tables.allocations.inUse = 0 ∧
    c'.files = c.files ∧ c'.conditions = c.conditions := by
  have hzeros : (⟨.fill (8 * blockSize) 0, none⟩ : Image).size = 8 * blockSize := by
    rw [Image.size, Bytes.size_fill]
  have hwrite := Image.write_eq_ok ⟨.fill (8 * blockSize) 0, none⟩ (.blank (.read .empty) 8)
  have hsize := (Image.size_setBlocks ⟨.fill (8 * blockSize) 0, none⟩ 0
    (System.blank (.read .empty) 8).blocks).trans hzeros
  obtain ⟨hopen, hblocks, hshows⟩ := opens_setBlocks ⟨.fill (8 * blockSize) 0, none⟩
    (.blank (.read .empty) 8) (by rw [hzeros]; decide) (by rw [hzeros]; decide)
  rw [(System.isFull_blank _ _).fit_eq_self] at hshows
  generalize Image.setBlocks ⟨.fill (8 * blockSize) 0, none⟩ 0
    (System.blank (.read .empty) 8).blocks = image at hopen hblocks hshows hwrite hsize
  have hcard : (opened image).size = 8 := by
    rw [← UInt16.toNat_inj, hblocks, hzeros]
    rfl
  have hdirectory : (opened image).tables.directories.inUse = 1 := hshows.directory_inUse
  have hallocation : (opened image).tables.allocations.inUse = 1 := hshows.allocation_inUse fun a ↦ by
    rw [hcard]
    exact (Allocation.countFree_blank _ (by decide)).symm
  have hlead : Copy.ahead 0 1 ≠ 0 ∧ Copy.ahead 0 1 ≠ 0x8000 := by decide
  have hdirectories : (opened image).tables.directories.IsDecided Directory.counter := by
    refine .newer ?_ ?_ <;> simp only [hshows.directory]
    · exact hlead.1
    · exact hlead.2
  have hallocations : (opened image).tables.allocations.IsDecided Allocation.counter := by
    refine .newer ?_ ?_ <;> simp only [hshows.allocation]
    · exact hlead.1
    · exact hlead.2
  obtain ⟨hexists, hexchanged⟩ := exchanged_ofImage hopen
  obtain ⟨image', hexchange⟩ := hexists (by rw [hsize]; decide)
  obtain ⟨c', hopen', h⟩ := hexchanged image' hexchange hdirectories hallocations
  refine ⟨_, image, _, image', c', hwrite, hopen, hdirectory, hallocation, hexchange, hopen', ?_,
    ?_, h.files, h.conditions⟩
  · rw [h.directories.inUse, hdirectory]
    rfl
  · rw [h.allocations.inUse, hallocation]
    rfl

end Card
end MemoryCard
