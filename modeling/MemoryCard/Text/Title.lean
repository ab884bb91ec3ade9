import MemoryCard.Charset
import MemoryCard.Text.ShiftJis
import MemoryCard.Text.Unicode
import MemoryCard.Text.Windows1252

/-! # Titles

File names and comments are byte strings of a fixed width, filled up with zeros. A byte-order mark in
front of one takes precedence over the character set it should have.
-/

namespace MemoryCard.Text

/-- How a byte string is to be read. -/
inductive Reading where
  | utf8
  | utf16Little
  | utf16Big
  | charset (c : Charset)
deriving DecidableEq, Repr

/-- The reading of a byte string and what follows the byte-order mark, if it has one. -/
def sniff (c : Charset) : List UInt8 → Reading × List UInt8
  | 0xEF :: 0xBB :: 0xBF :: rest => (.utf8, rest)
  | 0xFF :: 0xFE :: rest => (.utf16Little, rest)
  | 0xFE :: 0xFF :: rest => (.utf16Big, rest)
  | bs => (.charset c, bs)

def Reading.decode : Reading → List UInt8 → List Char
  | .utf8, bs => Utf8.decode bs
  | .utf16Little, bs => Utf16.decode Utf16.littleUnit bs
  | .utf16Big, bs => Utf16.decode Utf16.bigUnit bs
  | .charset .ansi, bs => Windows1252.decode bs
  | .charset .shiftJis, bs => ShiftJis.decode bs

/-- What stands in front of the first zero. -/
def untilNul (bs : List UInt8) : List UInt8 := bs.takeWhile (· != 0)

/-- The characters of a title, white space at the end left out. -/
def titleChars (bs : List UInt8) (c : Charset) : List Char :=
  let (reading, rest) := sniff c (untilNul bs)
  trimEnd (reading.decode rest)

def title (bs : List UInt8) (c : Charset) : String := String.ofList (titleChars bs c)

end MemoryCard.Text
