import MemoryCard.Allocation.Walk
import MemoryCard.Directory.Entry
import MemoryCard.Image
import MemoryCard.Text.Title

/-! # Save files

A save file is a directory entry together with the chain of blocks that holds its data. It is regular if
the directory in use lists it, and lost if it was found by other means.
-/

namespace MemoryCard

/-- How the chain of a lost file was obtained. -/
inductive Basis where
  | allocation
  | contiguous
  | explicit
deriving DecidableEq, Repr

namespace Basis

def name : Basis → String
  | .allocation => "AllocationTable"
  | .contiguous => "Contiguous"
  | .explicit => "Explicit"

end Basis

/-- Where a save file comes from. -/
inductive Origin where
  | regular (slot : Nat)
  /-- `credible` tells whether the entry looks as if a game had written it. -/
  | lost (basis : Basis) (credible : Bool)
deriving DecidableEq, Repr

namespace Origin

def isLost : Origin → Bool
  | .regular _ => false
  | .lost _ _ => true

def slot? : Origin → Option Nat
  | .regular slot => some slot
  | .lost _ _ => none

/-- Whether the file is regular or lost, in a word. -/
def name : Origin → String
  | .regular _ => "Regular"
  | .lost _ _ => "Lost"

end Origin

/-- What is wrong with the chain of a file. -/
structure Issues where
  defect? : Option ChainDefect := none
  /-- The recorded and the real length, where they differ. -/
  mismatch? : Option (UInt16 × UInt16) := none
  /-- Some block belongs to an earlier regular file as well. -/
  crossLinked : Bool := false
deriving DecidableEq, Repr

namespace Issues

def isEmpty (i : Issues) : Bool := i.defect?.isNone && i.mismatch?.isNone && !i.crossLinked

def ofWalk (w : Walk) : Issues := { defect? := w.defect?, mismatch? := w.mismatch? }

end Issues

structure SaveFile where
  entry : Entry
  /-- The blocks of the file in order. -/
  chain : List UInt16
  origin : Origin
  issues : Issues
  /-- The character set of the file's titles. -/
  charset : Charset
deriving DecidableEq

namespace SaveFile

/-- Bytes in each of the two comments. -/
abbrev commentWidth : Nat := 32

def isLost (f : SaveFile) : Bool := f.origin.isLost

def name (f : SaveFile) : String := Text.title f.entry.fileName.toList f.charset

/-- The number of bytes in the blocks of the file. -/
def capacity (f : SaveFile) : Nat := f.chain.length * blockSize

/-- The blocks of the file, one after the other. -/
def blocks (f : SaveFile) (image : Image) : Except Failure (List Bytes) :=
  f.chain.mapM fun block ↦ image.block block.toNat

/-- The `len` bytes after the first `skip` of the blocks in `chain`. -/
def readChain (image : Image) : List UInt16 → Nat → Nat → Except Failure Bytes
  | [], _, _ => .ok .empty
  | block :: rest, skip, len =>
    if len = 0 then .ok .empty
    else if blockSize ≤ skip then readChain image rest (skip - blockSize) len
    else do
      let here := min (blockSize - skip) len
      let data ← image.block block.toNat
      let more ← readChain image rest 0 (len - here)
      return data.extract skip (skip + here) ++ more

/-- The `len` bytes of the file from `offset` on. -/
def readAt (f : SaveFile) (image : Image) (offset len : Nat) : Except Failure Bytes :=
  if offset + len ≤ f.capacity ∧ offset + len < addressLimit then
    readChain image f.chain offset len
  else .error (.tooShort "file data" (min (offset + len) (addressLimit - 1)) f.capacity)

/-- The two comments of the file, at the place that the entry gives. -/
def comments (f : SaveFile) (image : Image) : Except Failure (String × String) := do
  let raw ← f.readAt image f.entry.commentAddress.toNat (2 * commentWidth)
  return (Text.title (raw.slice 0 commentWidth) f.charset,
    Text.title (raw.slice commentWidth commentWidth) f.charset)

end SaveFile
end MemoryCard
