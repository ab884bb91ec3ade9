import MemoryCard.Header
import MemoryCard.Save.File
import MemoryCard.Tables

/-! # Cards

A card is an image with what has been read from it: the header, the tables, and the list of save files.
Regular files stand first in the list, in the order of their slots; lost files follow. The usage map
counts for each block how many regular files claim it.
-/

namespace MemoryCard

/-- How often each block is claimed. Counts stop at 255. -/
abbrev Usage := Array UInt8

namespace Usage

/-- The map of a card of `size` blocks without files: the system blocks are taken. -/
def blank (size : UInt16) : Usage :=
  Array.ofFn fun (i : Fin size.toNat) ↦ if i.val < systemBlocks.toNat then 1 else 0

/-- How often `block` is claimed. -/
def count (u : Usage) (block : UInt16) : UInt8 := u[block.toNat]?.getD 0

def bump (n : UInt8) : UInt8 := if n = 0xFF then n else n + 1

def claimBlock (u : Usage) (block : UInt16) : Usage :=
  u.setIfInBounds block.toNat (bump (u.count block))

/-- Claim the blocks of a chain. -/
def claim (u : Usage) (chain : List UInt16) : Usage := chain.foldl claimBlock u

/-- Some block of a chain is claimed more than once, counted while the chain is being claimed. -/
def collides (u : Usage) : List UInt16 → Bool
  | [] => false
  | block :: rest =>
    let claimed := u.claimBlock block
    1 < claimed.count block || collides claimed rest

end Usage

/-- Regular files in the order of their slots, and the blocks they claim. -/
structure Listing where
  files : List SaveFile
  usage : Usage
deriving DecidableEq

namespace Listing

/-- The file of an entry, if its chain can be followed at all. -/
def file? (allocation : Allocation) (size : UInt16) (charset : Charset) (usage : Usage)
    (slot : Nat) (entry : Entry) : Option SaveFile :=
  match allocation.walk entry.firstBlock entry.length size with
  | .error _ => none
  | .ok walk => some
    { entry
      chain := walk.blocks
      origin := .regular slot
      issues := { Issues.ofWalk walk with crossLinked := usage.collides walk.blocks }
      charset := charset.forRegion entry.region }

/-- List the given slots; entries whose chain cannot be followed at all are left out. -/
def build (allocation : Allocation) (size : UInt16) (charset : Charset) (usage : Usage) :
    List (Nat × Entry) → Listing
  | [] => ⟨[], usage⟩
  | (slot, entry) :: rest =>
    match file? allocation size charset usage slot entry with
    | none => build allocation size charset usage rest
    | some file =>
      let others := build allocation size charset (usage.claim file.chain) rest
      ⟨file :: others.files, others.usage⟩

/-- The regular files under the tables in use. -/
def ofTables (tables : Tables) (size : UInt16) (charset : Charset) : Listing :=
  build tables.allocation size charset (Usage.blank size) tables.directory.used

end Listing

structure Card where
  image : Image
  header : Header
  headerSum : SumCheck
  sizeConditions : Conditions
  /-- The number of blocks, the system blocks included. -/
  size : UInt16
  tables : Tables
  files : List SaveFile
  /-- How many files at the front of the list are regular. -/
  regularCount : Nat
  usage : Usage

namespace Card

/-- Read a card from an image. It must have all system blocks, and no more than 65535 blocks count. -/
def ofImage (image : Image) : Except Failure Card := do
  need "card image" (systemBlocks.toNat * blockSize) image.size
  let size := (min image.blockCount 0xFFFF).toUInt16
  let block ← image.block 0
  let header ← Header.decode block
  let headerSum ← Header.check block
  let tables := Tables.load image size
  let listing := Listing.ofTables tables size header.charset
  return {
    image, header, headerSum, size, tables
    sizeConditions := Conditions.ofLength image.size
    files := listing.files
    regularCount := listing.files.length
    usage := listing.usage }

/-- Read a card from bytes in memory. -/
def ofBytes (bytes : Bytes) : Except Failure Card := ofImage ⟨bytes, none⟩

def charset (c : Card) : Charset := c.header.charset

/-- The number of data blocks. -/
def dataSize (c : Card) : UInt16 := dataBlocks c.size

/-- The number of free blocks, as the allocation table in use records it. -/
def free (c : Card) : UInt16 := c.tables.allocation.free

def regularFiles (c : Card) : List SaveFile := c.files.take c.regularCount

def lostFiles (c : Card) : List SaveFile := c.files.drop c.regularCount

/-- The blocks of the lost files. -/
def lostBlocks (c : Card) : List UInt16 := c.lostFiles.flatMap SaveFile.chain

def conditions (c : Card) : Conditions :=
  c.sizeConditions ∪ { badHeader := !c.headerSum.valid } ∪ c.tables.conditions

/-- The bytes of one block of the card. -/
def block (c : Card) (index : UInt16) : Except Failure Bytes :=
  if c.size ≤ index then .error (.noSuchBlock index.toNat c.size.toNat)
  else c.image.block index.toNat

/-- The buffer with one block of the card copied to its start. -/
def readBlock (c : Card) (index : UInt16) (buffer : Bytes) : Except Failure Bytes := do
  if buffer.size < blockSize then throw (.smallBuffer blockSize buffer.size)
  return buffer.overwrite 0 (← c.block index)

/-- One line about the card. -/
def text (c : Card) : String :=
  s!"Card \x7b image: {c.image.text}, size_in_blocks: {c.size}, files: {c.files.length}, errors: "
    ++ c.conditions.text ++ " \x7d"

end Card
end MemoryCard
