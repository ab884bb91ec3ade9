import MemoryCard.Directory.Entry
import MemoryCard.Seal

/-! # The directory

A directory has 127 slots for entries, a counter that grows with every update, and a dual sum at the end
of its block.
-/

namespace MemoryCard

structure Directory where
  /-- All slots, the unused ones included. -/
  entries : List Entry
  counter : UInt16
  /-- The sum that was stored when the directory was read. -/
  storedSum : UInt32
deriving DecidableEq

namespace Directory

/-- Slots in a directory. -/
abbrev slots : Nat := 127

/-- The sum stands right behind the bytes that it covers. -/
def sumSeal : Seal := ⟨0, 0x1FFC, 0x1FFC⟩

def read (b : Bytes) : Directory where
  entries := (List.range slots).map fun slot ↦ Entry.read b (slot * Entry.width)
  counter := b.u16 0x1FFA
  storedSum := b.u32 0x1FFC

def decode (b : Bytes) : Except Failure Directory := do
  need "directory table" blockSize b.size
  return read b

/-- The directory's sum, stored and computed. -/
def check (b : Bytes) : Except Failure SumCheck := sumSeal.verify b

/-- A directory without files. -/
def empty (counter : UInt16) : Directory := ⟨List.replicate slots Entry.unused, counter, 0⟩

/-- The used entries with their slots. -/
def used (d : Directory) : List (Nat × Entry) :=
  (d.entries.zipIdx.filter fun (e, _) ↦ !e.isUnused).map fun (e, slot) ↦ (slot, e)

/-- Some used entry is of the same save as `e`. -/
def lists (d : Directory) (e : Entry) : Bool := d.entries.any fun f ↦ !f.isUnused && f.sameFile e

/-- The slots, cut or filled up to their fixed number. -/
def slotBytes (d : Directory) : List UInt8 :=
  let written := (d.entries.take slots).flatMap Entry.encode
  written ++ List.replicate (0x1FFA - written.length) 0xFF

/-- The bytes in front of the sum. -/
def body (d : Directory) : List UInt8 := d.slotBytes ++ bytes16 d.counter

def sum (d : Directory) : UInt32 := (DualSum.ofBytes d.body).packed

/-- The directory at the start of a buffer of `room` bytes, which is filled up with `FF`. -/
def encode (d : Directory) (room : Nat) : List UInt8 :=
  d.body ++ bytes32 d.sum ++ List.replicate (room - blockSize) 0xFF

/-- The sum that is stored, and the directory in a buffer of `room` bytes. -/
def write (d : Directory) (room : Nat) : Except Failure (UInt32 × Bytes) := do
  need "directory table" blockSize room
  return (d.sum, (d.encode room).toByteArray)

end Directory
end MemoryCard
