import MemoryCard.Proofs.Card.Choice
import MemoryCard.Proofs.System

/-! # Opening undoes writing

A card that is read from an image whose system blocks have just been written shows the header and the
tables that were written, with the sums that were stored. All of it is valid, and the newer copies are
in use.
-/

namespace MemoryCard

open Bytes

/-- A block holds what its part of the image holds. -/
theorem Bytes.Holds.extract {b : Bytes} {start n : Nat} {bs : List UInt8} (h : b.Holds start bs)
    (hlen : bs.length ≤ n) : Holds (b.extract start (start + n)) 0 bs :=
  h.of_agree (agree_extract b (Nat.add_le_add_left hlen start))

/-! ## Blocks -/

theorem Header.valid_of_holds {h : Header} {block : Bytes} (hb : block.Holds 0 (h.encode blockSize))
    (hsize : block.size = blockSize) :
    (⟨block.u32 0x1FC, sumSeal.compute block⟩ : SumCheck).valid = true :=
  SumCheck.valid_iff.2 (intact_of_holds hb (by rw [hsize]; decide))

theorem Directory.ofBlock_of_holds {d : Directory} {block : Bytes}
    (h : block.Holds 0 (d.encode blockSize)) (hsize : block.size = blockSize) :
    (ofBlock block).table = { d.fit with storedSum := d.sum } ∧ (ofBlock block).valid = true :=
  ⟨read_of_holds h, valid_ofBlock.2 (intact_of_holds h (Nat.le_of_eq hsize.symm))⟩

theorem Allocation.ofBlock_of_holds {a : Allocation} {block : Bytes} (size : UInt16)
    (h : block.Holds 0 (a.encode blockSize)) (hsize : block.size = blockSize) :
    (ofBlock size block).table = { a.fit with storedSum := a.sum } ∧
      ((ofBlock size block).valid = true ↔ a.fit.free = a.fit.countFree size) := by
  refine ⟨read_of_holds h, ?_⟩
  have hintact := intact_of_holds h (Nat.le_of_eq hsize.symm)
  rw [valid_ofBlock, read_of_holds h, isConsistent, beq_iff_eq, and_iff_right hintact, eq_comm]
  rfl

/-! ## Cards -/

namespace System

/-- The tables have their fixed numbers of slots and links. -/
structure IsFull (s : System) : Prop where
  directory : ∀ d, (s.directories d).entries.length = Directory.slots
  allocation : ∀ a, (s.allocations a).links.size = Allocation.capacity

/-- Empty tables for a card of `size` blocks, the second copies of which are the newer ones. -/
def blank (header : Header) (size : UInt16) : System where
  header := header
  directories d := Directory.empty d.val.toUInt16
  allocations a := Allocation.blank a.val.toUInt16 size

theorem isFull_blank (header : Header) (size : UInt16) : (blank header size).IsFull where
  directory _ := List.length_replicate
  allocation _ := Array.size_replicate

/-- What stands in the system blocks after `s` has been written. -/
def fit (s : System) : System where
  header := s.header
  directories d := (s.directories d).fit
  allocations a := (s.allocations a).fit

theorem IsFull.fit_eq_self {s : System} (h : s.IsFull) : s.fit = s := by
  have hdirectories : (fun d ↦ (s.directories d).fit) = s.directories :=
    funext fun d ↦ Directory.fit_eq_self (h.directory d)
  have hallocations : (fun a ↦ (s.allocations a).fit) = s.allocations :=
    funext fun a ↦ Allocation.fit_eq_self (h.allocation a)
  rw [fit, hdirectories, hallocations]

end System

namespace Card

/-- The card shows what `s` says, together with the stored sums. -/
structure Shows (c : Card) (s : System) (sums : SystemSums) : Prop where
  header : c.header = { s.header with storedSum := sums.header }
  headerSum_valid : c.headerSum.valid = true
  directory : ∀ d, (c.tables.directories.copy d).table =
    { s.directories d with storedSum := sums.directories d }
  directory_valid : ∀ d, (c.tables.directories.copy d).valid = true
  directory_inUse : c.tables.directories.inUse =
    Copy.newer (s.directories 0).counter (s.directories 1).counter
  allocation : ∀ a, (c.tables.allocations.copy a).table =
    { s.allocations a with storedSum := sums.allocations a }
  /-- A copy of the allocation table is valid if it has its number of free blocks right. -/
  allocation_valid : ∀ a, (c.tables.allocations.copy a).valid = true ↔
    (s.allocations a).free = (s.allocations a).countFree c.size
  allocation_inUse : (∀ a, (s.allocations a).free = (s.allocations a).countFree c.size) →
    c.tables.allocations.inUse = Copy.newer (s.allocations 0).counter (s.allocations 1).counter

variable {image : Image} {s : System}

theorem size_system_block (image : Image) {k : Nat} (hk : k < image.blockCount) :
    (image.bytes.extract (k * blockSize) (k * blockSize + blockSize)).size = blockSize :=
  Image.size_block (Image.block_eq_ok.2 ⟨hk, rfl⟩)

theorem header_opened (h : image.Stores s) (hblocks : 5 ≤ image.blockCount) :
    (opened image).header = { s.header with storedSum := s.header.sum } ∧
      (opened image).headerSum.valid = true := by
  have hheader := h.header.extract (Nat.le_of_eq (Header.length_encode _ (by decide)))
  have hsize := size_system_block image (k := 0) (by omega)
  rw [Nat.zero_add] at hheader
  rw [Nat.zero_mul, Nat.zero_add] at hsize
  exact ⟨Header.read_of_holds hheader, Header.valid_of_holds hheader hsize⟩

theorem directory_opened (h : image.Stores s) (hblocks : 5 ≤ image.blockCount) (d : Copy) :
    ((opened image).tables.directories.copy d).table =
        { (s.directories d).fit with storedSum := (s.directories d).sum } ∧
      ((opened image).tables.directories.copy d).valid = true := by
  have hd : Directory.home d < image.blockCount :=
    Nat.lt_of_lt_of_le (Directory.home_lt d) hblocks
  rw [opened, Tables.directories_eq_ofBlocks, Copies.copy_ofBlocks hd]
  exact Directory.ofBlock_of_holds ((h.directory d).extract
    (Nat.le_of_eq (Directory.length_encode _ (Nat.le_refl _)))) (size_system_block image hd)

theorem allocation_opened (h : image.Stores s) (hblocks : 5 ≤ image.blockCount) (a : Copy) :
    ((opened image).tables.allocations.copy a).table =
        { (s.allocations a).fit with storedSum := (s.allocations a).sum } ∧
      (((opened image).tables.allocations.copy a).valid = true ↔
        (s.allocations a).fit.free = (s.allocations a).fit.countFree (opened image).size) := by
  have ha : Allocation.home a < image.blockCount :=
    Nat.lt_of_lt_of_le (Allocation.home_lt a) hblocks
  rw [opened, Tables.allocations_eq_ofBlocks, Copies.copy_ofBlocks ha]
  exact Allocation.ofBlock_of_holds _ ((h.allocation a).extract
    (Nat.le_of_eq (Allocation.length_encode _ (Nat.le_refl _)))) (size_system_block image ha)

theorem shows_opened (h : image.Stores s) (hblocks : 5 ≤ image.blockCount) :
    (opened image).Shows s.fit s.sums := by
  have hdirectory := directory_opened h hblocks
  have hallocation := allocation_opened h hblocks
  have hdirectories := Tables.isChoice_directories image (opened image).size
  have hallocations := Tables.isChoice_allocations image (opened image).size
  have hcounterDirectory (d : Copy) : ((opened image).tables.directories.copy d).table.counter =
      (s.directories d).counter := by
    rw [(hdirectory d).1]
    rfl
  have hcounterAllocation (a : Copy) : ((opened image).tables.allocations.copy a).table.counter =
      (s.allocations a).counter := by
    rw [(hallocation a).1]
    rfl
  exact {
    header := (header_opened h hblocks).1
    headerSum_valid := (header_opened h hblocks).2
    directory := fun d ↦ (hdirectory d).1
    directory_valid := fun d ↦ (hdirectory d).2
    directory_inUse :=
      (hdirectories.inUse_preferred (hdirectory _).2).trans (hdirectories.preferred_eq.trans
        (congrArg₂ Copy.newer (hcounterDirectory 0) (hcounterDirectory 1)))
    allocation := fun a ↦ (hallocation a).1
    allocation_valid := fun a ↦ (hallocation a).2
    allocation_inUse := fun hfree ↦
      (hallocations.inUse_preferred ((hallocation _).2.2 (hfree _))).trans
        (hallocations.preferred_eq.trans
          (congrArg₂ Copy.newer (hcounterAllocation 0) (hcounterAllocation 1))) }

/-- Data blocks are behind the system blocks that are written. -/
theorem block_setBlocks (h : 5 * blockSize ≤ image.size) (s : System) {index : Nat}
    (hindex : 5 ≤ index) : (image.setBlocks 0 s.blocks).block index = image.block index :=
  Image.block_setBlocks_outside (fun _ ↦ System.size_of_mem_blocks) h (.inr hindex)

/-- An image with enough blocks can be opened after its system blocks have been written. -/
theorem opens_setBlocks (image : Image) (s : System) (hfive : 5 ≤ image.size / blockSize)
    (hmost : image.size / blockSize ≤ 0xFFFF) :
    ofImage (image.setBlocks 0 s.blocks) = .ok (opened (image.setBlocks 0 s.blocks)) ∧
      (opened (image.setBlocks 0 s.blocks)).size.toNat = image.size / blockSize ∧
      (opened (image.setBlocks 0 s.blocks)).Shows s.fit s.sums := by
  have hbytes : 5 * blockSize ≤ image.size :=
    Nat.le_trans (Nat.mul_le_mul_right _ hfive) (Nat.div_mul_le_self _ _)
  have hcount : image.size / blockSize < 0x100000000 := by omega
  have hblocks : 5 ≤ image.blockCount := by rwa [Image.blockCount, Nat.mod_eq_of_lt hcount]
  have hsize : (image.setBlocks 0 s.blocks).size = image.size := Image.size_setBlocks _ _ _
  have hblocks' : 5 ≤ (image.setBlocks 0 s.blocks).blockCount := by
    rwa [Image.blockCount, hsize]
  refine ⟨ofImage_eq_opened (by rwa [hsize]) (by omega), ?_,
    shows_opened (Image.stores_setBlocks hbytes) hblocks'⟩
  rw [size_opened (by rwa [hsize]), hsize, Nat.min_eq_left hmost]

/-- Whatever is written onto eight blocks of zeros is shown by the card that is read from them. -/
theorem exists_shows (s : System) : ∃ sums image c,
    Image.write ⟨.fill (8 * blockSize) 0, none⟩ s = .ok (sums, image) ∧ ofImage image = .ok c ∧
      c.size = 8 ∧ c.Shows s.fit sums := by
  have hzeros : (⟨.fill (8 * blockSize) 0, none⟩ : Image).size = 8 * blockSize := by
    rw [Image.size, Bytes.size_fill]
  obtain ⟨hopen, hblocks, hshows⟩ := opens_setBlocks ⟨.fill (8 * blockSize) 0, none⟩ s
    (by rw [hzeros]; decide) (by rw [hzeros]; decide)
  refine ⟨_, _, _, Image.write_eq_ok _ s, hopen, ?_, hshows⟩
  rw [← UInt16.toNat_inj, hblocks, hzeros]
  rfl

/-- Opening undoes writing. A header and the copies of both tables that are written into the first
blocks of an image are shown, with the sums that writing gave, by the card that is read from it, where
the tables are cut or filled up to their fixed numbers of slots and links. The header and the
directories are valid, and so are the allocation tables that have their numbers of free blocks right;
the newer copies of valid tables are in use. The data blocks stay. -/
theorem ofImage_write {image : Image} (s : System) (hfive : 5 ≤ image.size / blockSize)
    (hmost : image.size / blockSize ≤ 0xFFFF) :
    ∃ sums written c, image.write s = .ok (sums, written) ∧ ofImage written = .ok c ∧
      c.size.toNat = image.size / blockSize ∧ c.Shows s.fit sums ∧ (s.IsFull → c.Shows s sums) ∧
      ∀ index, 5 ≤ index → written.block index = image.block index := by
  have hbytes : 5 * blockSize ≤ image.size :=
    Nat.le_trans (Nat.mul_le_mul_right _ hfive) (Nat.div_mul_le_self _ _)
  obtain ⟨hopen, hsize, hshows⟩ := opens_setBlocks image s hfive hmost
  refine ⟨s.sums, _, _, image.write_eq_ok s, hopen, hsize, hshows, fun hfull ↦ ?_,
    fun index ↦ block_setBlocks hbytes s⟩
  rwa [hfull.fit_eq_self] at hshows

/-- On a card of eight blocks of zeros, empty tables are written with the counters zero and one, and
the second copies are in use when it is read. -/
theorem ofImage_write_blank : ∃ sums written c,
    Image.write ⟨.fill (8 * blockSize) 0, none⟩ (.blank (.read .empty) 8) = .ok (sums, written) ∧
      ofImage written = .ok c ∧ c.headerSum.valid = true ∧
      c.tables.directories.inUse = 1 ∧ c.tables.allocations.inUse = 1 ∧
      c.tables.directory = { Directory.empty 1 with storedSum := sums.directories 1 } ∧
      c.tables.allocation = { Allocation.blank 1 8 with storedSum := sums.allocations 1 } := by
  have hsize : (⟨.fill (8 * blockSize) 0, none⟩ : Image).size = 8 * blockSize := by
    rw [Image.size, Bytes.size_fill]
  obtain ⟨sums, written, c, hwrite, hopen, hcount, -, hfull, -⟩ :=
    ofImage_write (System.blank (.read .empty) 8) (by rw [hsize]; decide) (by rw [hsize]; decide)
  have hshows := hfull (System.isFull_blank _ _)
  have hcard : c.size = 8 := by
    rw [← UInt16.toNat_inj, hcount, hsize]
    rfl
  have hfree (a : Copy) : (Allocation.blank a.val.toUInt16 8).free =
      (Allocation.blank a.val.toUInt16 8).countFree c.size := by
    rw [hcard, Allocation.countFree_blank _ (by decide)]
  have hdirectory := hshows.directory_inUse
  have hallocation := hshows.allocation_inUse hfree
  refine ⟨sums, written, c, hwrite, hopen, hshows.headerSum_valid, hdirectory, hallocation, ?_, ?_⟩
  · rw [Tables.directory, Copies.current, hdirectory]
    exact hshows.directory 1
  · rw [Tables.allocation, Copies.current, hallocation]
    exact hshows.allocation 1

end Card
end MemoryCard
