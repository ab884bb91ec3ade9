import MemoryCard.Bytes

/-! # Hexadecimal text -/

namespace MemoryCard.Hex

def lowerDigit (n : Nat) : Char :=
  if n < 10 then Char.ofNat (0x30 + n) else Char.ofNat (0x57 + n)

def upperDigit (n : Nat) : Char :=
  if n < 10 then Char.ofNat (0x30 + n) else Char.ofNat (0x37 + n)

/-- Two digits for each byte. -/
def chars (digit : Nat → Char) (bs : List UInt8) : List Char :=
  bs.flatMap fun b ↦ [digit (b.toNat / 16), digit (b.toNat % 16)]

def lower (bs : List UInt8) : String := String.ofList (chars lowerDigit bs)

def upper (bs : List UInt8) : String := String.ofList (chars upperDigit bs)

end MemoryCard.Hex
