import MemoryCard.Allocation.Table
import MemoryCard.Directory.Table
import MemoryCard.Image
import MemoryCard.Copies

/-! # The tables of a card

Blocks 1 and 2 hold the copies of the directory, blocks 3 and 4 those of the allocation table.
-/

namespace MemoryCard

/-- The block of a copy of the directory. -/
def Directory.home (c : Copy) : Nat := 1 + c.val

/-- The block of a copy of the allocation table. -/
def Allocation.home (c : Copy) : Nat := 3 + c.val

/-- Read and check the copy of the directory that a byte names. -/
def Directory.load (image : Image) (n : UInt8) : Except Failure (Checked Directory) := do
  let c ← Copy.ofByte? n
  let block ← image.block (home c)
  let table ← decode block
  let sum ← check block
  return ⟨table, sum, sum.valid, none⟩

/-- Read and check the copy of the allocation table that a byte names, for a card of `size` blocks. A
valid copy also counts its free blocks right. -/
def Allocation.load (image : Image) (size : UInt16) (n : UInt8) :
    Except Failure (Checked Allocation) := do
  let c ← Copy.ofByte? n
  let block ← image.block (home c)
  let table ← decode block
  let sum ← check block
  return ⟨table, sum, sum.valid && table.isConsistent size, none⟩

structure Tables where
  directories : Copies Directory
  allocations : Copies Allocation
deriving DecidableEq

namespace Tables

/-- Read all four tables. A copy that cannot be read counts as invalid. -/
def load (image : Image) (size : UInt16) : Tables where
  directories :=
    let copy n := Checked.ofResult (Directory.empty 0) (Directory.load image n)
    Copies.ofPair Directory.counter (copy 0) (copy 1)
  allocations :=
    let copy n := Checked.ofResult (Allocation.blank 0 size) (Allocation.load image size n)
    Copies.ofPair Allocation.counter (copy 0) (copy 1)

/-- The directory in use. -/
def directory (t : Tables) : Directory := t.directories.current

/-- The allocation table in use. -/
def allocation (t : Tables) : Allocation := t.allocations.current

/-- Use another copy of the directory; the answer says whether that changes anything. -/
def selectDirectory (t : Tables) (n : UInt8) : Except Failure (Tables × Bool) := do
  let (m, changed) ← t.directories.select n
  return ({ t with directories := m }, changed)

/-- Use another copy of the allocation table; the answer says whether that changes anything. -/
def selectAllocation (t : Tables) (n : UInt8) : Except Failure (Tables × Bool) := do
  let (m, changed) ← t.allocations.select n
  return ({ t with allocations := m }, changed)

/-- Which tables have no valid copy. -/
def conditions (t : Tables) : Conditions :=
  { badDirectories := t.directories.bothInvalid, badAllocation := t.allocations.bothInvalid }

end Tables
end MemoryCard
