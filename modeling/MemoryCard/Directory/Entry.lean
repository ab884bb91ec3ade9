import MemoryCard.Calendar
import MemoryCard.Failure
import MemoryCard.Bytes
import MemoryCard.Text.Unicode

/-! # Directory entries

An entry describes one save in 64 bytes: which game wrote it, its name, its first block and its length.
-/

namespace MemoryCard

structure Entry where
  gameCode : Vector UInt8 4
  maker : Vector UInt8 2
  /-- Always `FF` in an entry that a game wrote. -/
  reserved : UInt8
  bannerFormat : UInt8
  fileName : Vector UInt8 32
  /-- Seconds since the year 2000. -/
  modified : UInt32
  imageAddress : UInt32
  iconFormat : UInt16
  iconSpeed : UInt16
  permission : UInt8
  copies : UInt8
  firstBlock : UInt16
  /-- The length in blocks. -/
  length : UInt16
  /-- Always `FFFF` in an entry that a game wrote. -/
  reserved2 : UInt16
  commentAddress : UInt32
deriving DecidableEq

namespace Entry

/-- Bytes in an entry. -/
abbrev width : Nat := 64

def read (b : Bytes) (pos : Nat) : Entry where
  gameCode := b.field pos 4
  maker := b.field (pos + 0x04) 2
  reserved := b.byte (pos + 0x06)
  bannerFormat := b.byte (pos + 0x07)
  fileName := b.field (pos + 0x08) 32
  modified := b.u32 (pos + 0x28)
  imageAddress := b.u32 (pos + 0x2C)
  iconFormat := b.u16 (pos + 0x30)
  iconSpeed := b.u16 (pos + 0x32)
  permission := b.byte (pos + 0x34)
  copies := b.byte (pos + 0x35)
  firstBlock := b.u16 (pos + 0x36)
  length := b.u16 (pos + 0x38)
  reserved2 := b.u16 (pos + 0x3A)
  commentAddress := b.u32 (pos + 0x3C)

/-- The entry at the start of a buffer. -/
def decode (b : Bytes) : Except Failure Entry := do
  need "directory entry" width b.size
  return read b 0

def encode (e : Entry) : List UInt8 :=
  e.gameCode.toList ++ e.maker.toList ++ [e.reserved, e.bannerFormat] ++ e.fileName.toList
    ++ bytes32 e.modified ++ bytes32 e.imageAddress ++ bytes16 e.iconFormat ++ bytes16 e.iconSpeed
    ++ [e.permission, e.copies] ++ bytes16 e.firstBlock ++ bytes16 e.length ++ bytes16 e.reserved2
    ++ bytes32 e.commentAddress

@[simp] theorem length_encode (e : Entry) : e.encode.length = width := by simp [encode]

/-- The buffer with the entry written over its start. -/
def write (e : Entry) (b : Bytes) : Except Failure Bytes := do
  need "directory entry" width b.size
  return b.overwrite 0 e.encode.toByteArray

/-- An erased slot. -/
def unused : Entry := read (Bytes.fill width 0xFF) 0

/-- A slot is unused if its game code is erased. -/
def isUnused (e : Entry) : Bool := e.gameCode.toList.all (· == 0xFF)

/-- Game code and maker together. -/
def id (e : Entry) : List UInt8 := e.gameCode.toList ++ e.maker.toList

def idText (e : Entry) : String := String.ofList (Text.Utf8.decode e.id)

/-- The last letter of the game code names the region. -/
def region (e : Entry) : UInt8 := e.gameCode[3]

def modifiedText (e : Entry) : String :=
  Calendar.rfc3339 (Calendar.consoleEpoch + e.modified.toNat)

def isPublic (e : Entry) : Bool := e.permission &&& 0x04 != 0

def isCopyForbidden (e : Entry) : Bool := e.permission &&& 0x08 != 0

def isMoveForbidden (e : Entry) : Bool := e.permission &&& 0x10 != 0

/-- The entries are of the same save, wherever its blocks are. -/
def sameFile (e f : Entry) : Bool :=
  e.gameCode == f.gameCode && e.maker == f.maker && e.fileName == f.fileName

/-- The block after the last one, if the save lies in one piece. -/
def stopBlock (e : Entry) : UInt16 := blockAfter e.firstBlock e.length

end Entry
end MemoryCard
