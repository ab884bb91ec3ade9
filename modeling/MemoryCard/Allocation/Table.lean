import MemoryCard.Seal

/-! # The allocation table

Each data block has a link to the next block of its file. Zero marks a free block and `FFFF` the last
block of a file. The dual sum of the table stands at the beginning of its block.
-/

namespace MemoryCard

structure Allocation where
  counter : UInt16
  /-- The number of free blocks as the table records it. -/
  free : UInt16
  lastAllocated : UInt16
  /-- The links of the data blocks, that of the first one in front. -/
  links : Array UInt16
  /-- The sum that was stored when the table was read. -/
  storedSum : UInt32
deriving DecidableEq

namespace Allocation

/-- Links in a table. -/
abbrev capacity : Nat := 0xFFB

/-- Marks a free block. -/
abbrev freeLink : UInt16 := 0

/-- Marks the last block of a file. -/
abbrev lastLink : UInt16 := 0xFFFF

/-- The sum covers all that follows it. -/
def sumSeal : Seal := ⟨4, 0x2000, 0⟩

def read (b : Bytes) : Allocation where
  counter := b.u16 0x04
  free := b.u16 0x06
  lastAllocated := b.u16 0x08
  links := Array.ofFn fun (i : Fin capacity) ↦ b.u16 (0x0A + i.val * 2)
  storedSum := b.u32 0x00

def decode (b : Bytes) : Except Failure Allocation := do
  need "block allocation table" blockSize b.size
  return read b

/-- The table's sum, stored and computed. -/
def check (b : Bytes) : Except Failure SumCheck := sumSeal.verify b

/-- A table with every data block free, for a card of `size` blocks. -/
def blank (counter size : UInt16) : Allocation where
  counter := counter
  free := dataBlocks size
  lastAllocated := systemBlocks - 1
  links := Array.replicate capacity freeLink
  storedSum := 0

/-- The link of a block; system blocks and blocks behind the table have none. -/
def link? (a : Allocation) (block : UInt16) : Option UInt16 :=
  if systemBlocks ≤ block then a.links[(block - systemBlocks).toNat]? else none

/-- The table with another link for `block`, if it has one. -/
def setLink? (a : Allocation) (block value : UInt16) : Option Allocation :=
  if systemBlocks ≤ block ∧ (block - systemBlocks).toNat < a.links.size then
    some { a with links := a.links.setIfInBounds (block - systemBlocks).toNat value }
  else none

/-- The table with at most `n` links. -/
def truncate (a : Allocation) (n : Nat) : Allocation := { a with links := a.links.take n }

/-- The data blocks of a card of `size` blocks. -/
def dataBlockList (size : UInt16) : List UInt16 :=
  (List.range' systemBlocks.toNat (size.toNat - systemBlocks.toNat)).map Nat.toUInt16

/-- How many data blocks have the mark of a free block. -/
def countFree (a : Allocation) (size : UInt16) : UInt16 :=
  ((dataBlockList size).countP fun b ↦ a.link? b == some freeLink).toUInt16

/-- The recorded number of free blocks is the number of links that say so. -/
def isConsistent (a : Allocation) (size : UInt16) : Bool := a.countFree size == a.free

/-- The links, cut or filled up to their fixed number. -/
def linkBytes (a : Allocation) : List UInt8 :=
  let written := (a.links.toList.take capacity).flatMap bytes16
  written ++ List.replicate (2 * capacity - written.length) 0

/-- The bytes behind the sum. -/
def body (a : Allocation) : List UInt8 :=
  bytes16 a.counter ++ bytes16 a.free ++ bytes16 a.lastAllocated ++ a.linkBytes

def sum (a : Allocation) : UInt32 := (DualSum.ofBytes a.body).packed

/-- The table at the start of a buffer of `room` bytes, which is filled up with zeros. -/
def encode (a : Allocation) (room : Nat) : List UInt8 :=
  bytes32 a.sum ++ a.body ++ List.replicate (room - blockSize) 0

/-- The sum that is stored, and the table in a buffer of `room` bytes. -/
def write (a : Allocation) (room : Nat) : Except Failure (UInt32 × Bytes) := do
  need "block allocation table" blockSize room
  return (a.sum, (a.encode room).toByteArray)

end Allocation
end MemoryCard
