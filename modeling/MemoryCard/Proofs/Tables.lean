import MemoryCard.Tables
import MemoryCard.Proofs.Copies
import MemoryCard.Proofs.Image
import MemoryCard.Proofs.Seal

/-! # The tables of a card and the copies in use

Selecting copies changes which of them are in use and nothing else about the tables. The copies
themselves are read once from their blocks.
-/

namespace MemoryCard

namespace Tables

/-- The tables with the given copies in use. -/
def use (t : Tables) (d a : Copy) : Tables where
  directories := { t.directories with inUse := d }
  allocations := { t.allocations with inUse := a }

@[simp] theorem use_inUse (t : Tables) : t.use t.directories.inUse t.allocations.inUse = t := rfl

theorem selectDirectory_toByte (t : Tables) {d : Copy} (h : t.directories.inUse ≠ d) :
    t.selectDirectory d.toByte = .ok (t.use d t.allocations.inUse, true) := by
  simp only [selectDirectory, Copies.select, Copy.ofByte?_toByte, ok_bind, if_neg h]
  rfl

theorem selectAllocation_toByte (t : Tables) {a : Copy} (h : t.allocations.inUse ≠ a) :
    t.selectAllocation a.toByte = .ok (t.use t.directories.inUse a, true) := by
  simp only [selectAllocation, Copies.select, Copy.ofByte?_toByte, ok_bind, if_neg h]
  rfl

end Tables

/-! ## Loading -/

theorem Directory.home_lt (d : Copy) : home d < 5 := by
  have := d.isLt
  unfold home
  omega

theorem Allocation.home_lt (a : Copy) : home a < 5 := by
  have := a.isLt
  unfold home
  omega

@[simp] theorem Directory.length_read (b : Bytes) : (read b).entries.length = slots := by
  simp [read]

theorem Directory.decode_eq_ok {block : Bytes} (h : block.size = blockSize) :
    decode block = .ok (read block) := by
  rw [decode, h]
  rfl

theorem Allocation.decode_eq_ok {block : Bytes} (h : block.size = blockSize) :
    decode block = .ok (read block) := by
  rw [decode, h]
  rfl

/-- The copy of the directory that a whole block holds. -/
def Directory.ofBlock (block : Bytes) : Checked Directory :=
  let sum : SumCheck := ⟨block.u32 0x1FFC, sumSeal.compute block⟩
  ⟨read block, sum, sum.valid, none⟩

theorem Directory.load_toByte (image : Image) (c : Copy) :
    load image c.toByte = (image.block (home c)).map ofBlock := by
  rw [load, Copy.ofByte?_toByte, ok_bind]
  cases h : image.block (home c) with
  | error failure => rfl
  | ok block =>
      have hsize := Image.size_block h
      rw [ok_bind, decode_eq_ok hsize, check, Seal.Inside.verify_eq (by rw [hsize]; decide)]
      rfl

/-- The copy of the allocation table that a whole block holds, on a card of `size` blocks. -/
def Allocation.ofBlock (size : UInt16) (block : Bytes) : Checked Allocation :=
  let sum : SumCheck := ⟨block.u32 0, sumSeal.compute block⟩
  ⟨read block, sum, sum.valid && (read block).isConsistent size, none⟩

theorem Allocation.load_toByte (image : Image) (size : UInt16) (c : Copy) :
    load image size c.toByte = (image.block (home c)).map (ofBlock size) := by
  rw [load, Copy.ofByte?_toByte, ok_bind]
  cases h : image.block (home c) with
  | error failure => rfl
  | ok block =>
      have hsize := Image.size_block h
      rw [ok_bind, decode_eq_ok hsize, check, Seal.Inside.verify_eq (by rw [hsize]; decide)]
      rfl

theorem Directory.valid_ofBlock {block : Bytes} :
    (ofBlock block).valid = true ↔ sumSeal.Intact block := SumCheck.valid_iff

theorem Allocation.valid_ofBlock {size : UInt16} {block : Bytes} :
    (ofBlock size block).valid = true ↔
      sumSeal.Intact block ∧ (read block).isConsistent size = true := by
  rw [ofBlock, Bool.and_eq_true, SumCheck.valid_iff]
  rfl

theorem Tables.directories_load (image : Image) (size : UInt16) : (load image size).directories =
    Copies.ofEach Directory.counter fun c ↦
      Checked.ofResult (Directory.empty 0) (Directory.load image c.toByte) := rfl

theorem Tables.allocations_load (image : Image) (size : UInt16) : (load image size).allocations =
    Copies.ofEach Allocation.counter fun c ↦
      Checked.ofResult (Allocation.blank 0 size) (Allocation.load image size c.toByte) := rfl

/-! ## Copies in blocks -/

namespace Copies

variable {α : Type} {number : α → UInt16} {standIn : α} {ofBlock : Bytes → Checked α}
  {home : Copy → Nat} {image image' : Image}

/-- The copies that are read from their blocks. -/
def ofBlocks (number : α → UInt16) (standIn : α) (ofBlock : Bytes → Checked α)
    (home : Copy → Nat) (image : Image) : Copies α :=
  ofEach number fun c ↦ Checked.ofResult standIn ((image.block (home c)).map ofBlock)

theorem copy_ofBlocks {c : Copy} (h : home c < image.blockCount) :
    (ofBlocks number standIn ofBlock home image).copy c =
      ofBlock (image.bytes.extract (home c * blockSize) (home c * blockSize + blockSize)) := by
  rw [ofBlocks, copy_ofEach, Image.block_eq_ok.2 ⟨h, rfl⟩]
  rfl

theorem ofBlocks_congr (h : ∀ c, image'.block (home c) = image.block (home c)) :
    ofBlocks number standIn ofBlock home image' = ofBlocks number standIn ofBlock home image := by
  simp only [ofBlocks, h]

theorem isChoice_ofBlocks (number : α → UInt16) (standIn : α) (ofBlock : Bytes → Checked α)
    (home : Copy → Nat) (image : Image) :
    let t := ofBlocks number standIn ofBlock home image
    t.IsChoice (fun c ↦ (t.copy c).valid = true) fun c ↦ number (t.copy c).table :=
  isChoice_ofEach (fun c ↦ by rw [ofBlocks, copy_ofEach]) fun c ↦ by rw [ofBlocks, copy_ofEach]

/-- With both blocks there, the choice is one between what they hold. -/
theorem isChoice_ofBlocks_of_lt {valid : Copy → Prop} {counter : Copy → UInt16}
    (h : ∀ c, home c < image.blockCount)
    (hvalid : ∀ c, (ofBlock (image.bytes.extract (home c * blockSize)
      (home c * blockSize + blockSize))).valid = true ↔ valid c)
    (hcounter : ∀ c, number (ofBlock (image.bytes.extract (home c * blockSize)
      (home c * blockSize + blockSize))).table = counter c) :
    (ofBlocks number standIn ofBlock home image).IsChoice valid counter := by
  have hchoice := isChoice_ofBlocks number standIn ofBlock home image
  simpa only [copy_ofBlocks (h _), hvalid, hcounter] using hchoice

end Copies

theorem Tables.directories_eq_ofBlocks (image : Image) (size : UInt16) :
    (load image size).directories =
      .ofBlocks Directory.counter (.empty 0) Directory.ofBlock Directory.home image := by
  rw [directories_load]
  simp only [Directory.load_toByte]
  rfl

theorem Tables.allocations_eq_ofBlocks (image : Image) (size : UInt16) :
    (load image size).allocations = .ofBlocks Allocation.counter (.blank 0 size)
      (Allocation.ofBlock size) Allocation.home image := by
  rw [allocations_load]
  simp only [Allocation.load_toByte]
  rfl

theorem Tables.isChoice_directories (image : Image) (size : UInt16) :
    (load image size).directories.IsChoice
      (fun d ↦ ((load image size).directories.copy d).valid = true)
      fun d ↦ ((load image size).directories.copy d).table.counter := by
  rw [directories_eq_ofBlocks]
  exact Copies.isChoice_ofBlocks _ _ _ _ _

theorem Tables.isChoice_allocations (image : Image) (size : UInt16) :
    (load image size).allocations.IsChoice
      (fun a ↦ ((load image size).allocations.copy a).valid = true)
      fun a ↦ ((load image size).allocations.copy a).table.counter := by
  rw [allocations_eq_ofBlocks]
  exact Copies.isChoice_ofBlocks _ _ _ _ _

/-- The tables depend on their blocks only. -/
theorem Tables.load_congr {image image' : Image} (size : UInt16)
    (h : ∀ k, 1 ≤ k → image'.block k = image.block k) : load image' size = load image size := by
  have hdirectories : (load image' size).directories = (load image size).directories := by
    rw [directories_eq_ofBlocks, directories_eq_ofBlocks]
    exact Copies.ofBlocks_congr fun d ↦ h _ (Nat.le_add_right 1 _)
  have hallocations : (load image' size).allocations = (load image size).allocations := by
    rw [allocations_eq_ofBlocks, allocations_eq_ofBlocks]
    exact Copies.ofBlocks_congr fun a ↦ h _ (Nat.le_trans (by decide) (Nat.le_add_right 3 _))
  exact congrArg₂ Tables.mk hdirectories hallocations

/-- A valid copy of the allocation table has its number of free blocks right. -/
theorem Tables.isConsistent_load {image : Image} {size : UInt16} {a : Copy}
    (h : ((load image size).allocations.copy a).valid = true) :
    ((load image size).allocations.copy a).table.isConsistent size = true := by
  rw [allocations_load, Copies.copy_ofEach, Allocation.load_toByte] at h ⊢
  cases hblock : image.block (Allocation.home a) with
  | error failure =>
      rw [hblock] at h
      cases h
  | ok block =>
      rw [hblock] at h
      exact (Allocation.valid_ofBlock.1 h).2

/-- A copy of the directory is what its block holds, or empty if there is no such block. -/
theorem Tables.table_load_directory (image : Image) (size : UInt16) (c : Copy) :
    ((load image size).directories.copy c).table = match image.block (Directory.home c) with
      | .ok block => Directory.read block
      | .error _ => Directory.empty 0 := by
  rw [directories_load, Copies.copy_ofEach, Directory.load_toByte]
  cases image.block (Directory.home c) <;> rfl

end MemoryCard
