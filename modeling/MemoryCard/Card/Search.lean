import MemoryCard.Card.Basic
import MemoryCard.Save.BlockSearch

/-! # The search for lost files

Entries of saves that are no longer listed survive in the copy of the directory that is not in use, and
in data blocks that no regular file claims. A search collects those that look as if a game had written
them, in the order of their places.
-/

namespace MemoryCard

namespace Card

/-- The credible entries in the copy of the directory that is not in use. -/
def scanIdleDirectory (c : Card) : List Sighting :=
  let base := Directory.home c.tables.directories.inUse.other * blockSize
  (c.tables.directories.idle.entries.take Directory.slots).zipIdx.filterMap fun (entry, slot) ↦
    if entry.isCredible c.size then
      some (Sighting.of entry (base + slot * Entry.width) .idleDirectory)
    else none

/-- The data blocks that no regular file claims. -/
def unclaimedBlocks (c : Card) : List UInt16 :=
  (Allocation.dataBlockList c.size).filter fun b ↦ c.usage.count b == 0

/-- The credible entries in one block. Steps have at least one byte. -/
def scanDataBlock (c : Card) (alignment : UInt64) (b : UInt16) : Except Failure (List Sighting) :=
  match c.image.block b.toNat with
  | .ok data => scanBlock data b (max 1 alignment) c.size (.max_one alignment)
  | .error _ => .ok []

/-- The credible entries in the data blocks that no regular file claims. -/
def scanBlockPool (c : Card) (alignment : UInt64) : Except Failure (List Sighting) := do
  let found ← c.unclaimedBlocks.mapM (c.scanDataBlock alignment)
  return found.flatten

/-- The entries of lost files, each once, in the order of their places. -/
def scan (c : Card) (options : ScanOptions) : Except Failure (List Sighting) := do
  let idle := if options.idleDirectory then c.scanIdleDirectory else []
  let pool ← if options.blockPool then c.scanBlockPool options.alignment else .ok []
  let found := idle ++ pool
  let news := if options.skipKnown then
      found.filter fun s ↦ !c.tables.directory.lists s.entry
    else found
  return Sighting.firstOfEach (news.mergeSort fun s t ↦ s.offset ≤ t.offset)

end Card
end MemoryCard
