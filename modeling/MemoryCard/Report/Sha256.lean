import MemoryCard.Bytes
import MemoryCard.Hex

/-! # SHA-256

The digest that identifies images and files in reports.
-/

namespace MemoryCard.Sha256

/-- The fractional parts of the cube roots of the first 64 primes. -/
def constants : Array UInt32 := #[
  0x428a2f98, 0x71374491, 0xb5c0fbcf, 0xe9b5dba5, 0x3956c25b, 0x59f111f1, 0x923f82a4, 0xab1c5ed5,
  0xd807aa98, 0x12835b01, 0x243185be, 0x550c7dc3, 0x72be5d74, 0x80deb1fe, 0x9bdc06a7, 0xc19bf174,
  0xe49b69c1, 0xefbe4786, 0x0fc19dc6, 0x240ca1cc, 0x2de92c6f, 0x4a7484aa, 0x5cb0a9dc, 0x76f988da,
  0x983e5152, 0xa831c66d, 0xb00327c8, 0xbf597fc7, 0xc6e00bf3, 0xd5a79147, 0x06ca6351, 0x14292967,
  0x27b70a85, 0x2e1b2138, 0x4d2c6dfc, 0x53380d13, 0x650a7354, 0x766a0abb, 0x81c2c92e, 0x92722c85,
  0xa2bfe8a1, 0xa81a664b, 0xc24b8b70, 0xc76c51a3, 0xd192e819, 0xd6990624, 0xf40e3585, 0x106aa070,
  0x19a4c116, 0x1e376c08, 0x2748774c, 0x34b0bcb5, 0x391c0cb3, 0x4ed8aa4a, 0x5b9cca4f, 0x682e6ff3,
  0x748f82ee, 0x78a5636f, 0x84c87814, 0x8cc70208, 0x90befffa, 0xa4506ceb, 0xbef9a3f7, 0xc67178f2]

structure State where
  a : UInt32
  b : UInt32
  c : UInt32
  d : UInt32
  e : UInt32
  f : UInt32
  g : UInt32
  h : UInt32

/-- The fractional parts of the square roots of the first eight primes. -/
def State.initial : State :=
  ⟨0x6a09e667, 0xbb67ae85, 0x3c6ef372, 0xa54ff53a, 0x510e527f, 0x9b05688c, 0x1f83d9ab, 0x5be0cd19⟩

@[inline] def rotateRight (x : UInt32) (n : UInt32) : UInt32 := x >>> n ||| x <<< (32 - n)

@[inline] def word (w : Array UInt32) (i : Nat) : UInt32 := w.getD i 0

/-- The word that follows the sixteen words before it. -/
def nextWord (w : Array UInt32) : UInt32 :=
  let x := word w (w.size - 15)
  let y := word w (w.size - 2)
  word w (w.size - 16) + (rotateRight x 7 ^^^ rotateRight x 18 ^^^ x >>> 3)
    + word w (w.size - 7) + (rotateRight y 17 ^^^ rotateRight y 19 ^^^ y >>> 10)

def extend : Nat → Array UInt32 → Array UInt32
  | 0, w => w
  | n + 1, w => extend n (w.push (nextWord w))

/-- The words of `n` groups of four bytes from `pos` on. -/
def readWords (m : Bytes) (pos : Nat) : Nat → Array UInt32 → Array UInt32
  | 0, w => w
  | n + 1, w => readWords m (pos + 4) n <| w.push <|
      (m.byte pos).toUInt32 <<< 24 ||| (m.byte (pos + 1)).toUInt32 <<< 16
        ||| (m.byte (pos + 2)).toUInt32 <<< 8 ||| (m.byte (pos + 3)).toUInt32

/-- One round with a constant and a word of the schedule. -/
@[inline] def State.round (s : State) (k w : UInt32) : State :=
  let t := s.h + (rotateRight s.e 6 ^^^ rotateRight s.e 11 ^^^ rotateRight s.e 25)
    + ((s.e &&& s.f) ^^^ (~~~s.e &&& s.g)) + k + w
  let u := (rotateRight s.a 2 ^^^ rotateRight s.a 13 ^^^ rotateRight s.a 22)
    + ((s.a &&& s.b) ^^^ (s.a &&& s.c) ^^^ (s.b &&& s.c))
  ⟨t + u, s.a, s.b, s.c, s.d + t, s.e, s.f, s.g⟩

/-- The last `n` of the 64 rounds. -/
def rounds (w : Array UInt32) : Nat → State → State
  | 0, s => s
  | n + 1, s => rounds w n (s.round (word constants (63 - n)) (word w (63 - n)))

/-- The state after the 64 bytes from `pos` on. -/
def compress (m : Bytes) (pos : Nat) (s : State) : State :=
  let r := rounds (extend 48 (readWords m pos 16 (Array.emptyWithCapacity 64))) 64 s
  ⟨s.a + r.a, s.b + r.b, s.c + r.c, s.d + r.d, s.e + r.e, s.f + r.f, s.g + r.g, s.h + r.h⟩

def compressAll (m : Bytes) (pos : Nat) : Nat → State → State
  | 0, s => s
  | n + 1, s => compressAll m (pos + 64) n (compress m pos s)

/-- The message with a mark behind it, zeros up to a whole number of groups, and its length in bits. -/
def pad (m : Bytes) : Bytes :=
  let zeros := (119 - m.size % 64) % 64
  Bytes.appendFill 0 zeros (m.push 0x80) ++ (bigEndian 8 (m.size * 8)).toByteArray

def State.bytes (s : State) : List UInt8 :=
  [s.a, s.b, s.c, s.d, s.e, s.f, s.g, s.h].flatMap bytes32

def digest (m : Bytes) : List UInt8 :=
  let padded := pad m
  (compressAll padded 0 (padded.size / 64) State.initial).bytes

/-- The digest in hexadecimal. -/
def text (m : Bytes) : String := Hex.lower (digest m)

end MemoryCard.Sha256
