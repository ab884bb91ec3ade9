import MemoryCard.Bytes

/-! # The dual sum

Every structure of a card is protected by two 16-bit sums over its big-endian words: the sum of the
words and the sum of their complements. The value `0xFFFF` is never stored, zero stands for it.
-/

namespace MemoryCard

structure DualSum where
  sum : UInt16
  inverse : UInt16
deriving DecidableEq, Repr

namespace DualSum

/-- The name under which the sum is known. -/
def name : String := "AddInvDual16"

/-- The big-endian words of a byte string; an odd byte at the end is left out. -/
def words : List UInt8 → List UInt16
  | hi :: lo :: rest => (hi.toNat * 256 + lo.toNat).toUInt16 :: words rest
  | _ => []

/-- One more word in both sums. -/
def add (s : DualSum) (w : UInt16) : DualSum := ⟨s.sum + w, s.inverse + (w ^^^ 0xFFFF)⟩

/-- Both sums over the words of a byte string, from `s` on. -/
def accumulate (s : DualSum) : List UInt8 → DualSum
  | hi :: lo :: rest => accumulate (s.add (hi.toNat * 256 + lo.toNat).toUInt16) rest
  | _ => s

theorem accumulate_eq_foldl (s : DualSum) (bs : List UInt8) :
    accumulate s bs = (words bs).foldl add s := by
  fun_induction accumulate s bs with
  | case1 s hi lo rest ih => simpa [words] using ih
  | case2 bs s h => rw [words.eq_2 _ h, List.foldl_nil]

/-- The form in which a sum is stored. -/
def settle (w : UInt16) : UInt16 := if w = 0xFFFF then 0 else w

def ofBytes (bs : List UInt8) : DualSum :=
  let s := accumulate ⟨0, 0⟩ bs
  ⟨settle s.sum, settle s.inverse⟩

/-- Both sums in one word, the plain one in the upper half. -/
def packed (s : DualSum) : UInt32 := s.sum.toUInt32 <<< 16 ||| s.inverse.toUInt32

end DualSum
end MemoryCard
