import MemoryCard.DualSum
import MemoryCard.Failure
import MemoryCard.Hex

/-! # Sealed regions

A seal is a dual sum stored beside the region that it covers. Reading one gives the stored sum together
with the sum of what is there now; writing one makes the two agree.
-/

namespace MemoryCard

/-- A stored sum and the one computed over the region. -/
structure SumCheck where
  stored : UInt32 := 0
  computed : UInt32 := 0
deriving DecidableEq, Repr

namespace SumCheck

def valid (c : SumCheck) : Bool := c.stored == c.computed

/-- The plain sums agree. -/
def upperAgrees (c : SumCheck) : Bool := c.stored >>> 16 == c.computed >>> 16

/-- The sums of the complements agree. -/
def lowerAgrees (c : SumCheck) : Bool := c.stored &&& 0xFFFF == c.computed &&& 0xFFFF

def text (c : SumCheck) : String :=
  let computed := Hex.upper (bytes32 c.computed)
  if c.valid then computed
  else computed ++ " (expected " ++ Hex.upper (bytes32 c.stored) ++ ")"

end SumCheck

/-- Where a sum is stored, and the region it covers. Positions are 64-bit words. -/
structure Seal where
  start : UInt64
  stop : UInt64
  storedAt : UInt64
deriving DecidableEq, Repr

namespace Seal

/-- The bytes that a buffer must have, computed in 64-bit words. -/
def needed (s : Seal) : UInt64 := max s.stop (s.storedAt + 4)

/-- A buffer of `size` bytes is long enough for the region and the stored sum. -/
def check (s : Seal) (size : Nat) : Except Failure Unit :=
  if s.stop < s.start ∨ size < s.needed.toNat then
    .error (.tooShort "checksum region" s.needed.toNat size)
  else .ok ()

/-- The bytes that the sum covers. -/
def region (s : Seal) (b : Bytes) : List UInt8 :=
  b.slice s.start.toNat (s.stop.toNat - s.start.toNat)

def compute (s : Seal) (b : Bytes) : UInt32 := (DualSum.ofBytes (s.region b)).packed

/-- The four bytes of the stored sum are in a buffer of `size` bytes. Where their end is no address
there is a panic, whether the sum that leads to it is refused or begins again at zero. -/
def reach (s : Seal) (size : Nat) : Except Failure Unit :=
  needRange s.storedAt.toNat (s.storedAt.toNat + 4) size

/-- The stored sum against the region as it is. -/
def verify (s : Seal) (b : Bytes) : Except Failure SumCheck := do
  s.check b.size
  s.reach b.size
  return ⟨b.u32 s.storedAt.toNat, s.compute b⟩

/-- The sum of the region, and the buffer with that sum stored. -/
def store (s : Seal) (b : Bytes) : Except Failure (UInt32 × Bytes) := do
  s.check b.size
  let sum := s.compute b
  s.reach b.size
  return (sum, b.overwrite s.storedAt.toNat (bytes32 sum).toByteArray)

end Seal
end MemoryCard
