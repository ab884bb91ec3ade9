/-! # Unicode text from bytes

UTF-8 and UTF-16 are read without failing: what is malformed becomes a replacement character, one for
each longest beginning of a character that goes no further. Both readers look at one unit at a time and
carry what is unfinished.
-/

namespace MemoryCard.Text

def replacement : Char := '\uFFFD'

/-- The character with the number `n`, or the replacement character if there is none. -/
def scalar (n : Nat) : Char := if n.isValidChar then Char.ofNat n else replacement

/-- The characters that count as white space in Unicode. -/
def isBlank (c : Char) : Bool :=
  let n := c.toNat
  (0x09 ≤ n && n ≤ 0x0D) || n == 0x20 || n == 0x85 || n == 0xA0 || n == 0x1680
    || (0x2000 ≤ n && n ≤ 0x200A) || n == 0x2028 || n == 0x2029 || n == 0x202F || n == 0x205F
    || n == 0x3000

/-- `cs` without the white space at its end. -/
def trimEnd (cs : List Char) : List Char := (cs.reverse.dropWhile isBlank).reverse

namespace Utf8

/-- A character of which the first bytes have been read: its bits so far, how many bytes are to come,
and the range of the next one. -/
structure Unfinished where
  value : Nat
  missing : Nat
  low : Nat
  high : Nat

/-- A byte where a character may begin. -/
def start (b : UInt8) : List Char × Option Unfinished :=
  let n := b.toNat
  if n < 0x80 then ([scalar n], none)
  else if 0xC2 ≤ n ∧ n ≤ 0xDF then ([], some ⟨n - 0xC0, 1, 0x80, 0xBF⟩)
  else if n = 0xE0 then ([], some ⟨0, 2, 0xA0, 0xBF⟩)
  else if n = 0xED then ([], some ⟨0xD, 2, 0x80, 0x9F⟩)
  else if 0xE1 ≤ n ∧ n ≤ 0xEF then ([], some ⟨n - 0xE0, 2, 0x80, 0xBF⟩)
  else if n = 0xF0 then ([], some ⟨0, 3, 0x90, 0xBF⟩)
  else if 0xF1 ≤ n ∧ n ≤ 0xF3 then ([], some ⟨n - 0xF0, 3, 0x80, 0xBF⟩)
  else if n = 0xF4 then ([], some ⟨4, 3, 0x80, 0x8F⟩)
  else ([replacement], none)

def resume (p : Unfinished) (b : UInt8) : List Char × Option Unfinished :=
  let n := b.toNat
  if p.low ≤ n ∧ n ≤ p.high then
    let value := p.value * 64 + (n - 0x80)
    if p.missing ≤ 1 then ([scalar value], none)
    else ([], some ⟨value, p.missing - 1, 0x80, 0xBF⟩)
  else
    let (cs, next) := start b
    (replacement :: cs, next)

def step : Option Unfinished → UInt8 → List Char × Option Unfinished
  | none, b => start b
  | some p, b => resume p b

def decodeFrom : Option Unfinished → List UInt8 → List Char
  | none, [] => []
  | some _, [] => [replacement]
  | p, b :: bs => (step p b).1 ++ decodeFrom (step p b).2 bs

def decode (bs : List UInt8) : List Char := decodeFrom none bs

end Utf8

namespace Utf16

def isLead (u : Nat) : Bool := 0xD800 ≤ u && u < 0xDC00

def isTrail (u : Nat) : Bool := 0xDC00 ≤ u && u < 0xE000

/-- The units of a byte string, and whether a byte is left over. -/
def units (unit : UInt8 → UInt8 → Nat) : List UInt8 → List Nat × Bool
  | a :: b :: rest => let (us, odd) := units unit rest; (unit a b :: us, odd)
  | [_] => ([], true)
  | [] => ([], false)

/-- The characters of a row of units. A leading half at the very end is one malformed piece together with
the byte left over. -/
def chars (odd : Bool) : List Nat → List Char
  | [] => if odd then [replacement] else []
  | [u] =>
    if isLead u then [replacement]
    else scalar u :: chars odd []
  | u :: t :: rest =>
    if isLead u then
      if isTrail t then scalar (0x10000 + (u - 0xD800) * 0x400 + (t - 0xDC00)) :: chars odd rest
      else replacement :: chars odd (t :: rest)
    else scalar u :: chars odd (t :: rest)

def decode (unit : UInt8 → UInt8 → Nat) (bs : List UInt8) : List Char :=
  let (us, odd) := units unit bs
  chars odd us

def bigUnit (a b : UInt8) : Nat := a.toNat * 256 + b.toNat

def littleUnit (a b : UInt8) : Nat := b.toNat * 256 + a.toNat

end Utf16

end MemoryCard.Text
