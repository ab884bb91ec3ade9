import MemoryCard.Charset
import MemoryCard.Seal

/-! # The card header

The first block of a card says where and when it was formatted, how large it is, and which character
set its titles have. The fields fill the beginning of the block, and a dual sum closes the first half
kilobyte.
-/

namespace MemoryCard

structure Header where
  serial : Vector UInt8 12
  /-- Ticks of the console's clock since the year 2000. -/
  formatTime : UInt64
  clockBias : UInt32
  language : UInt32
  deviceId : UInt16
  /-- The capacity in megabits. -/
  megabits : UInt16
  charsetWord : UInt16
  /-- The sum that was stored when the header was read. -/
  storedSum : UInt32
deriving DecidableEq

namespace Header

/-- Bytes from the first field to the end of the sum. -/
abbrev width : Nat := 0x200

/-- The sum stands right behind the bytes that it covers. -/
def sumSeal : Seal := ⟨0, 0x1FC, 0x1FC⟩

def read (b : Bytes) : Header where
  serial := b.field 0x00 12
  formatTime := b.u64 0x0C
  clockBias := b.u32 0x14
  language := b.u32 0x18
  deviceId := b.u16 0x20
  megabits := b.u16 0x22
  charsetWord := b.u16 0x24
  storedSum := b.u32 0x1FC

def decode (b : Bytes) : Except Failure Header := do
  need "card header" width b.size
  return read b

/-- The header's sum, stored and computed. -/
def check (b : Bytes) : Except Failure SumCheck := sumSeal.verify b

/-- The bytes in front of the sum. -/
def body (h : Header) : List UInt8 :=
  h.serial.toList ++ bytes64 h.formatTime ++ bytes32 h.clockBias ++ bytes32 h.language
    ++ bytes32 0 ++ bytes16 h.deviceId ++ bytes16 h.megabits ++ bytes16 h.charsetWord
    ++ List.replicate 0x1D6 0xFF

@[simp] theorem length_body (h : Header) : h.body.length = 0x1FC := by
  simp only [body, List.length_append, Vector.length_toList, length_bytes64, length_bytes32,
    length_bytes16, List.length_replicate]

def sum (h : Header) : UInt32 := (DualSum.ofBytes h.body).packed

/-- The header at the start of a buffer of `room` bytes, which is filled up with `FF`. -/
def encode (h : Header) (room : Nat) : List UInt8 :=
  h.body ++ bytes32 h.sum ++ List.replicate (room - width) 0xFF

/-- The sum that is stored, and the header in a buffer of `room` bytes. -/
def write (h : Header) (room : Nat) : Except Failure (UInt32 × Bytes) := do
  need "card header block" blockSize room
  return (h.sum, (h.encode room).toByteArray)

def charset (h : Header) : Charset := Charset.ofWord h.charsetWord

def serialText (h : Header) : String := Hex.upper h.serial.toList

/-- The number of blocks that the header declares. -/
def declaredBlocks (h : Header) : Nat := h.megabits.toNat * 16

end Header
end MemoryCard
