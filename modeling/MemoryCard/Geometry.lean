/-! # Card geometry

A card is a row of blocks. The first five hold the header, two copies of the directory and two copies
of the allocation table; the rest hold data. Block numbers are 16-bit words.
-/

namespace MemoryCard

/-- Bytes in a block. -/
abbrev blockSize : Nat := 0x2000

/-- Blocks in front of the first data block. -/
abbrev systemBlocks : UInt16 := 5

/-- The smallest card that was sold, in bytes. -/
abbrev minCardBytes : Nat := 512 * 1024

/-- The largest card that the format allows, in bytes. -/
abbrev maxCardBytes : Nat := 16 * 1024 * 1024

abbrev minCardBlocks : Nat := minCardBytes / blockSize

abbrev maxCardBlocks : Nat := maxCardBytes / blockSize

/-- Sizes, offsets and alignments that callers choose are 64-bit words. -/
abbrev addressLimit : Nat := 0x10000000000000000

/-- The sum of two words, unless it does not fit in a word. -/
def sum? (a b : UInt64) : Option UInt64 :=
  if a.toNat + b.toNat < addressLimit then some (a + b) else none

section Words

variable {a b : UInt64}

theorem sum?_eq (h : a.toNat + b.toNat < addressLimit) : sum? a b = some (a + b) := if_pos h

theorem sum?_eq_none (h : addressLimit ≤ a.toNat + b.toNat) : sum? a b = none :=
  if_neg (Nat.not_lt.2 h)

theorem toNat_sum (h : a.toNat + b.toNat < addressLimit) : (a + b).toNat = a.toNat + b.toNat := by
  rw [UInt64.toNat_add]
  exact Nat.mod_eq_of_lt h

end Words

/-- `n` has a single binary digit that is not zero. -/
def isPowerOfTwo (n : Nat) : Bool := n == 1 <<< n.log2

/-- `block` is a data block of a card of `size` blocks. -/
def isDataBlock (size block : UInt16) : Bool := systemBlocks ≤ block && block < size

/-- Number of data blocks of a card of `size` blocks. -/
def dataBlocks (size : UInt16) : UInt16 :=
  if systemBlocks ≤ size then size - systemBlocks else 0

/-- The block after the last of `len` blocks from `first` on, kept in 16 bits. -/
def blockAfter (first len : UInt16) : UInt16 :=
  if first.toNat + len.toNat ≤ 0xFFFF then first + len else 0xFFFF

end MemoryCard
