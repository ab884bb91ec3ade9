import MemoryCard.Text.JisTable
import MemoryCard.Text.Unicode

/-! # Shift_JIS

A byte is a character of its own or leads a pair. A pair that stands for nothing gives one replacement
character, and its second byte is read again if it is an ASCII byte.
-/

namespace MemoryCard.Text.ShiftJis

def isLead (b : UInt8) : Bool := (0x81 ≤ b && b ≤ 0x9F) || (0xE0 ≤ b && b ≤ 0xFC)

def isTrail (b : UInt8) : Bool := (0x40 ≤ b && b ≤ 0x7E) || (0x80 ≤ b && b ≤ 0xFC)

/-- The character of a byte that neither leads nor ends a pair. -/
def single (b : UInt8) : Char :=
  if b ≤ 0x80 then Char.ofNat b.toNat
  else if 0xA1 ≤ b ∧ b ≤ 0xDF then Char.ofNat (0xFF61 + (b.toNat - 0xA1))
  else replacement

/-- The column of a trail byte in the row of its lead byte. -/
def column (trail : UInt8) : Nat := trail.toNat - if trail < 0x7F then 0x40 else 0x41

/-- The character of a pair. The leads `F0` to `F9` have the private use area, row after row. -/
def pair? (lead trail : UInt8) : Option Char :=
  if !isTrail trail then none
  else if 0xF0 ≤ lead ∧ lead ≤ 0xF9 then
    some (Char.ofNat (0xE000 + (lead.toNat - 0xF0) * 188 + column trail))
  else JisTable.find? lead (column trail)

/-- Read on, where `lead` is the first byte of a pair that has begun. -/
def decodeFrom : Option UInt8 → List UInt8 → List Char
  | none, [] => []
  | some _, [] => [replacement]
  | none, b :: bs =>
    if isLead b then decodeFrom (some b) bs else single b :: decodeFrom none bs
  | some lead, b :: bs =>
    match pair? lead b with
    | some c => c :: decodeFrom none bs
    | none =>
      if b < 0x80 then replacement :: single b :: decodeFrom none bs
      else replacement :: decodeFrom none bs

def decode (bs : List UInt8) : List Char := decodeFrom none bs

end MemoryCard.Text.ShiftJis
