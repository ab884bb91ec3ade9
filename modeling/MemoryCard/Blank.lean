import MemoryCard.Calendar
import MemoryCard.Card.Basic

/-! # Blank cards

A card that has just been formatted: a header, two empty copies of each table, and zeros.
-/

namespace MemoryCard

/-- The time that consoles count from the beginning of the year 2000, at 40.5 million ticks a second. A
moment before that counts as zero, and the count stops at the largest 64-bit word. The moment is given
in seconds since 1970 and nanoseconds. -/
def consoleTicks (secs : Int) (nanos : Nat) : UInt64 :=
  let millis := ((secs - Calendar.consoleEpoch) * 1000 + nanos / 1000000).toNat
  (min (millis * 40500) (addressLimit - 1)).toUInt64

structure BlankOptions where
  /-- The size in blocks, the system blocks included. -/
  blocks : UInt16 := 2048
  charset : Charset := .ansi
  /-- The serial number; without one it is made from the time. -/
  serial? : Option (Vector UInt8 12) := none
deriving DecidableEq

namespace BlankOptions

/-- Cards are made in powers of two, from the smallest to the largest size. -/
def check (o : BlankOptions) : Except Failure Unit :=
  let bytes := o.blocks.toNat * blockSize
  if minCardBytes ≤ bytes ∧ bytes ≤ maxCardBytes ∧ isPowerOfTwo bytes then .ok ()
  else .error (.invalidArgument (s!"card size must be a power of two between {minCardBlocks} and "
    ++ s!"{maxCardBlocks} blocks, got {o.blocks}"))

/-- The serial number of a card without a given one. -/
def derivedSerial (o : BlankOptions) (ticks : UInt64) : Vector UInt8 12 :=
  ⟨(bytes64 ticks ++ bytes16 o.blocks ++ bytes16 o.charset.word).toArray, by simp⟩

def header (o : BlankOptions) (ticks : UInt64) : Header where
  serial := o.serial?.getD (o.derivedSerial ticks)
  formatTime := ticks
  clockBias := 0
  language := 0
  deviceId := 0
  megabits := o.blocks / 16
  charsetWord := o.charset.word
  storedSum := 0

/-- The system blocks of a blank card. -/
def systemBytes (o : BlankOptions) (ticks : UInt64) : List UInt8 :=
  (o.header ticks).encode blockSize
    ++ (Directory.empty 0).encode blockSize ++ (Directory.empty 1).encode blockSize
    ++ (Allocation.blank 0 o.blocks).encode blockSize ++ (Allocation.blank 1 o.blocks).encode blockSize

/-- The image of a blank card that is formatted at the given time. -/
def image (o : BlankOptions) (ticks : UInt64) : Except Failure Bytes := do
  o.check
  let system := (o.systemBytes ticks).toByteArray
  return Bytes.appendFill 0 (o.blocks.toNat * blockSize - system.size) system

end BlankOptions
end MemoryCard
