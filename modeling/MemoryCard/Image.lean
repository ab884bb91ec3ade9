import MemoryCard.Bytes
import MemoryCard.Failure

/-! # Card images

An image is the contents of a whole card, block after block. Bytes behind the last whole block belong to
no block.
-/

namespace MemoryCard

structure Image where
  bytes : Bytes
  /-- The file that the image was read from. -/
  path? : Option String := none

namespace Image

/-- The number of bytes. -/
def size (i : Image) : Nat := i.bytes.size

/-- The number of whole blocks, a 32-bit word. -/
def blockCount (i : Image) : Nat := i.size / blockSize % 0x100000000

/-- The bytes of one block. -/
def block (i : Image) (index : Nat) : Except Failure Bytes :=
  if index < i.blockCount then
    .ok (i.bytes.extract (index * blockSize) (index * blockSize + blockSize))
  else .error (.noSuchBlock index i.blockCount)

/-- The image with the block at `index` replaced. -/
def setBlock (i : Image) (index : Nat) (b : Bytes) : Image :=
  { i with bytes := i.bytes.overwrite (index * blockSize) b }

/-- One line about the image. -/
def text (i : Image) : String :=
  let path := match i.path? with
    | none => "None"
    | some p => "Some(\"" ++ p ++ "\")"
  s!"CardImage \x7b len: {i.size}, path: {path} \x7d"

end Image
end MemoryCard
