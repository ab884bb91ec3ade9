/-! # Sets of blocks

A set of block numbers is kept as a number with one binary digit for each block, so that even the chain
of a file that fills the card is checked in one pass. The lemmas say what each operation does to
`contains`.
-/

namespace MemoryCard

structure BlockSet where
  bits : Nat := 0
deriving DecidableEq, Repr

namespace BlockSet

def empty : BlockSet := {}

def contains (s : BlockSet) (b : UInt16) : Bool := s.bits.testBit b.toNat

def insert (s : BlockSet) (b : UInt16) : BlockSet := ⟨s.bits ||| 1 <<< b.toNat⟩

def insertAll (s : BlockSet) (blocks : List UInt16) : BlockSet := blocks.foldl insert s

def ofList (blocks : List UInt16) : BlockSet := empty.insertAll blocks

@[simp] theorem contains_empty (b : UInt16) : empty.contains b = false := Nat.zero_testBit _

@[simp] theorem contains_insert (s : BlockSet) (b c : UInt16) :
    (s.insert b).contains c = (s.contains c || b == c) := by
  simp only [contains, insert, Nat.testBit_or, Nat.one_shiftLeft, Nat.testBit_two_pow]
  congr 1
  rw [Bool.eq_iff_iff]
  simp [UInt16.toNat_inj]

@[simp] theorem contains_insertAll (s : BlockSet) (blocks : List UInt16) (c : UInt16) :
    (s.insertAll blocks).contains c = (s.contains c || blocks.contains c) := by
  induction blocks generalizing s with
  | nil => simp [insertAll]
  | cons b rest ih =>
    have step : s.insertAll (b :: rest) = (s.insert b).insertAll rest := rfl
    rw [step, ih, contains_insert, List.contains_cons, Bool.or_assoc, BEq.comm]

@[simp] theorem contains_ofList (blocks : List UInt16) (c : UInt16) :
    (ofList blocks).contains c = blocks.contains c := by
  simp [ofList]

end BlockSet
end MemoryCard
