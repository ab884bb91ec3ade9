import MemoryCard.Directory.Entry
import MemoryCard.Geometry

/-! # Sightings

A sighting is an entry of a save that the directory in use may not list, with the place where it stands.
-/

namespace MemoryCard

/-- A capital letter or a digit, as all bytes of a game code and a maker are. -/
def isCodeByte (b : UInt8) : Bool := (0x41 ≤ b && b ≤ 0x5A) || (0x30 ≤ b && b ≤ 0x39)

/-- A byte that can begin a file name: a visible character, or the first byte of a Shift_JIS pair. -/
def isNameStart (b : UInt8) : Bool := (0x21 ≤ b && b ≤ 0x7E) || 0x81 ≤ b

/-- The entry looks as if a game had written it on a card of `size` blocks. -/
def Entry.isCredible (e : Entry) (size : UInt16) : Bool :=
  e.id.all isCodeByte && e.reserved == 0xFF && e.reserved2 == 0xFFFF
    && isDataBlock size e.firstBlock
    && e.length != 0 && e.length ≤ dataBlocks size
    && e.firstBlock.toNat + e.length.toNat ≤ size.toNat
    && isNameStart e.fileName[0]

/-- The part of a card in which an entry was found. -/
inductive Source where
  /-- The copy of the directory that is not in use. -/
  | idleDirectory
  /-- A data block that no regular file claims. -/
  | blockPool
deriving DecidableEq, Repr

structure Sighting where
  entry : Entry
  /-- Where the entry stands in the image. -/
  offset : Nat
  source : Source
  /-- The blocks that the save takes up if it lies in one piece, the first and the one after the last. -/
  start : UInt16
  stop : UInt16
deriving DecidableEq

namespace Sighting

def of (entry : Entry) (offset : Nat) (source : Source) : Sighting :=
  ⟨entry, offset, source, entry.firstBlock, entry.stopBlock⟩

/-- Entries of one save with one first block are sightings of the same thing. -/
structure Key where
  id : List UInt8
  fileName : Vector UInt8 32
  firstBlock : UInt16
deriving DecidableEq

def key (s : Sighting) : Key := ⟨s.entry.id, s.entry.fileName, s.entry.firstBlock⟩

/-- The first sighting of each key. -/
def firstOfEach : List Sighting → List Sighting
  | [] => []
  | s :: rest => s :: (firstOfEach rest).filter fun t ↦ t.key ≠ s.key

end Sighting

/-- What a search looks at. -/
structure ScanOptions where
  /-- How many threads may be used; zero leaves it open. The result does not depend on it. -/
  threads : UInt64 := 0
  idleDirectory : Bool := true
  blockPool : Bool := true
  /-- The distance of the places in a block at which an entry may begin. -/
  alignment : UInt64 := 64
  /-- Leave out what the directory in use lists. -/
  skipKnown : Bool := true
deriving DecidableEq, Repr

end MemoryCard
