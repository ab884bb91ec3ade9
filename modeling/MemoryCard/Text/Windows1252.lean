/-! # The Western European code page

Each byte stands for one character: itself, except that the bytes `80` to `9F` have a table.
-/

namespace MemoryCard.Text.Windows1252

/-- The numbers of the characters of `80` to `9F`. -/
def table : List Nat :=
  [0x20AC, 0x0081, 0x201A, 0x0192, 0x201E, 0x2026, 0x2020, 0x2021,
   0x02C6, 0x2030, 0x0160, 0x2039, 0x0152, 0x008D, 0x017D, 0x008F,
   0x0090, 0x2018, 0x2019, 0x201C, 0x201D, 0x2022, 0x2013, 0x2014,
   0x02DC, 0x2122, 0x0161, 0x203A, 0x0153, 0x009D, 0x017E, 0x0178]

def char (b : UInt8) : Char :=
  if 0x80 ≤ b ∧ b < 0xA0 then Char.ofNat (table.getD (b.toNat - 0x80) 0) else Char.ofNat b.toNat

def decode (bs : List UInt8) : List Char := bs.map char

end MemoryCard.Text.Windows1252
