/-! # Bytes in memory

Card images are packed byte buffers. This module reads them: single bytes, big-endian numbers, byte
strings of a fixed width, and slices as lists. What is written is built as a list of bytes first, so a
reader and its writer meet in `List UInt8`.
-/

namespace MemoryCard

abbrev Bytes := ByteArray

namespace Bytes

/-- The byte at `pos`, zero past the end. -/
@[inline] def byte (b : Bytes) (pos : Nat) : UInt8 :=
  if h : pos < b.size then b[pos] else 0

/-- The `len` bytes from `pos` on, as far as the buffer reaches. -/
def slice (b : Bytes) (pos len : Nat) : List UInt8 :=
  (b.extract pos (pos + len)).data.toList

/-- The whole buffer as a list. -/
def all (b : Bytes) : List UInt8 := b.data.toList

@[simp] theorem length_all (b : Bytes) : (all b).length = b.size := rfl

/-- The big-endian number in the `n` bytes from `pos` on. -/
def number (b : Bytes) (pos : Nat) : Nat → Nat
  | 0 => 0
  | n + 1 => number b pos n * 256 + (byte b (pos + n)).toNat

def u16 (b : Bytes) (pos : Nat) : UInt16 := (number b pos 2).toUInt16

def u32 (b : Bytes) (pos : Nat) : UInt32 := (number b pos 4).toUInt32

def u64 (b : Bytes) (pos : Nat) : UInt64 := (number b pos 8).toUInt64

/-- The byte string of width `n` at `pos`. -/
def field (b : Bytes) (pos n : Nat) : Vector UInt8 n :=
  Vector.ofFn fun i => byte b (pos + i)

def appendFill (v : UInt8) : Nat → Bytes → Bytes
  | 0, b => b
  | n + 1, b => appendFill v n (b.push v)

/-- `n` copies of the byte `v`. -/
def fill (n : Nat) (v : UInt8) : Bytes := appendFill v n (ByteArray.emptyWithCapacity n)

/-- `b` with the bytes from `pos` on replaced by those of `patch`; the size stays. -/
def overwrite (b : Bytes) (pos : Nat) (patch : Bytes) : Bytes :=
  patch.copySlice 0 b pos (min patch.size (b.size - pos))

/-- `b` cut or extended with `v` to the size `n`. -/
def resize (b : Bytes) (n : Nat) (v : UInt8) : Bytes :=
  if n ≤ b.size then b.extract 0 n else appendFill v (n - b.size) b

/-! ## What the operations do to the list of bytes -/

@[simp] theorem all_toByteArray (bs : List UInt8) : all bs.toByteArray = bs := by simp [all]

theorem byte_eq (b : Bytes) (pos : Nat) : b.byte pos = (all b)[pos]?.getD 0 := by
  by_cases h : pos < b.size
  · simp [byte, all, h]; rfl
  · simp [byte, all, h]

theorem slice_eq (b : Bytes) (pos len : Nat) : b.slice pos len = ((all b).drop pos).take len := by
  simp [slice, all]

theorem length_slice {b : Bytes} {pos len : Nat} (h : pos + len ≤ b.size) :
    (b.slice pos len).length = len := by
  rw [slice_eq, List.length_take, List.length_drop, length_all]
  omega

@[simp] theorem all_appendFill (v : UInt8) (n : Nat) (b : Bytes) :
    all (appendFill v n b) = all b ++ List.replicate n v := by
  induction n generalizing b with
  | zero => simp [appendFill]
  | succ n ih => rw [appendFill, ih, List.replicate_succ]; simp [all]

@[simp] theorem all_fill (n : Nat) (v : UInt8) : all (fill n v) = List.replicate n v := by
  rw [fill, all_appendFill]; rfl

@[simp] theorem size_fill (n : Nat) (v : UInt8) : (fill n v).size = n := by
  rw [← length_all, all_fill, List.length_replicate]

theorem all_overwrite (b patch : Bytes) (pos : Nat) :
    all (b.overwrite pos patch) =
      (all b).take pos ++ (all patch).take (b.size - pos) ++ (all b).drop (pos + patch.size) := by
  have hb : (all b).length = b.size := length_all b
  have hpatch : (all patch).length = patch.size := length_all patch
  rw [overwrite, ByteArray.copySlice_eq_append]
  simp only [all, ByteArray.data_append, ByteArray.data_extract, Array.toList_append,
    Array.toList_extract, List.extract_eq_take_drop] at hb hpatch ⊢
  congr 1
  · rw [Nat.sub_zero, List.drop_zero, List.drop_zero, Nat.zero_add, Nat.sub_zero,
      List.take_eq_take_iff.2 (by omega : min (min patch.size (b.size - pos)) _ = min (b.size - pos) _)]
  · rw [List.take_of_length_le (by simp)]
    by_cases h : pos + patch.size ≤ b.size
    · congr 1; simp; omega
    · rw [List.drop_of_length_le, List.drop_of_length_le] <;> simp <;> omega

@[simp] theorem size_overwrite (b patch : Bytes) (pos : Nat) : (b.overwrite pos patch).size = b.size := by
  rw [← length_all, all_overwrite]
  simp
  omega

end Bytes

/-! ## Numbers as bytes -/

/-- The last `n` base-256 digits of `v`, the most significant first. -/
def bigEndian : Nat → Nat → List UInt8
  | 0, _ => []
  | n + 1, v => bigEndian n (v / 256) ++ [v.toUInt8]

@[simp] theorem length_bigEndian (n v : Nat) : (bigEndian n v).length = n := by
  induction n generalizing v with
  | zero => rfl
  | succ n ih => simp [bigEndian, ih]

def bytes16 (v : UInt16) : List UInt8 := bigEndian 2 v.toNat

def bytes32 (v : UInt32) : List UInt8 := bigEndian 4 v.toNat

def bytes64 (v : UInt64) : List UInt8 := bigEndian 8 v.toNat

@[simp] theorem length_bytes16 (v : UInt16) : (bytes16 v).length = 2 := length_bigEndian _ _
@[simp] theorem length_bytes32 (v : UInt32) : (bytes32 v).length = 4 := length_bigEndian _ _
@[simp] theorem length_bytes64 (v : UInt64) : (bytes64 v).length = 8 := length_bigEndian _ _

end MemoryCard
