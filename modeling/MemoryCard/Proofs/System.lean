import Mathlib.Data.Fin.VecNotation
import MemoryCard.Proofs.Encoding

/-! # Writing the system blocks

The header and both copies of the tables are written into the first five blocks of an image. Each of
them then stands in its own block, and the blocks behind them are as they were.
-/

namespace MemoryCard

open Bytes

/-! ## Writing blocks -/

namespace Image

variable {image : Image} {index start : Nat} {patch : Bytes} {blocks : List Bytes}

@[simp] theorem size_setBlock (image : Image) (index : Nat) (patch : Bytes) :
    (image.setBlock index patch).size = image.size := size_overwrite _ _ _

theorem byte_setBlock (hsize : patch.size = blockSize) (hfits : (index + 1) * blockSize ≤ image.size)
    (pos : Nat) : (image.setBlock index patch).bytes.byte pos =
      if index * blockSize ≤ pos ∧ pos < (index + 1) * blockSize
      then patch.byte (pos - index * blockSize) else image.bytes.byte pos := by
  rw [Nat.succ_mul] at hfits ⊢
  rw [setBlock, byte_overwrite _ _ _ _ (by rwa [hsize]), hsize]

/-- The image with some blocks replaced one after the other. -/
def setBlocks (image : Image) (start : Nat) : List Bytes → Image
  | [] => image
  | block :: rest => (image.setBlock start block).setBlocks (start + 1) rest

@[simp] theorem size_setBlocks (image : Image) (start : Nat) (blocks : List Bytes) :
    (image.setBlocks start blocks).size = image.size := by
  induction blocks generalizing image start with
  | nil => rfl
  | cons block rest ih => rw [setBlocks, ih, size_setBlock]

/-- What is not in the replaced blocks stays. -/
theorem byte_setBlocks (hsize : ∀ block ∈ blocks, block.size = blockSize)
    (hfits : (start + blocks.length) * blockSize ≤ image.size) {pos : Nat}
    (hpos : pos < start * blockSize ∨ (start + blocks.length) * blockSize ≤ pos) :
    (image.setBlocks start blocks).bytes.byte pos = image.bytes.byte pos := by
  induction blocks generalizing image start with
  | nil => rfl
  | cons block rest ih =>
      rw [List.length_cons, Nat.add_comm rest.length, ← Nat.add_assoc] at hfits hpos
      have hrest (b : Bytes) (hb : b ∈ rest) := hsize b (List.mem_cons_of_mem _ hb)
      have hfits' : (start + 1 + rest.length) * blockSize ≤ (image.setBlock start block).size := by
        rw [size_setBlock]
        exact hfits
      have hnext : (start + 1) * blockSize ≤ (start + 1 + rest.length) * blockSize :=
        Nat.mul_le_mul_right _ (Nat.le_add_right _ _)
      have hstart : start * blockSize ≤ (start + 1) * blockSize :=
        Nat.mul_le_mul_right _ (Nat.le_succ _)
      have hstays := byte_setBlock (hsize block List.mem_cons_self) (Nat.le_trans hnext hfits) pos
      rw [if_neg (by omega)] at hstays
      rw [setBlocks, ih hrest hfits' (hpos.imp_left fun h ↦ Nat.lt_of_lt_of_le h hstart), hstays]

/-- A replaced block has the bytes that were written to it. -/
theorem agree_setBlocks (hsize : ∀ block ∈ blocks, block.size = blockSize)
    (hfits : (start + blocks.length) * blockSize ≤ image.size) {k : Nat} (hk : k < blocks.length) :
    Agree blockSize (image.setBlocks start blocks).bytes ((start + k) * blockSize) blocks[k] 0 := by
  induction blocks generalizing image start k with
  | nil => cases hk
  | cons block rest ih =>
      rw [List.length_cons, Nat.add_comm rest.length, ← Nat.add_assoc] at hfits
      have hrest (b : Bytes) (hb : b ∈ rest) := hsize b (List.mem_cons_of_mem _ hb)
      have hfits' : (start + 1 + rest.length) * blockSize ≤ (image.setBlock start block).size := by
        rw [size_setBlock]
        exact hfits
      cases k with
      | zero =>
          -- what is written first must survive the blocks that are written after it
          intro i hi
          have hnext : (start + 1) * blockSize ≤ (start + 1 + rest.length) * blockSize :=
            Nat.mul_le_mul_right _ (Nat.le_add_right _ _)
          have hinside : start * blockSize + i < (start + 1) * blockSize := by
            rw [Nat.succ_mul]
            exact Nat.add_lt_add_left hi _
          have hwritten := byte_setBlock (hsize block List.mem_cons_self)
            (Nat.le_trans hnext hfits) (start * blockSize + i)
          rw [if_pos ⟨Nat.le_add_right _ _, hinside⟩, Nat.add_sub_cancel_left] at hwritten
          rw [Nat.add_zero start, Nat.zero_add i, setBlocks,
            byte_setBlocks hrest hfits' (.inl hinside), hwritten]
          rfl
      | succ k =>
          have hnext := ih hrest hfits' (Nat.lt_of_succ_lt_succ hk)
          rw [Nat.add_assoc, Nat.add_comm 1 k] at hnext
          exact hnext

/-- The blocks in front of the replaced ones and behind them are what they were. -/
theorem block_setBlocks_outside (hsize : ∀ block ∈ blocks, block.size = blockSize)
    (hfits : (start + blocks.length) * blockSize ≤ image.size)
    (h : index < start ∨ start + blocks.length ≤ index) :
    (image.setBlocks start blocks).block index = image.block index := by
  refine block_congr (size_setBlocks _ _ _) fun i hi hi' ↦ byte_setBlocks hsize hfits ?_
  rw [← Nat.succ_mul] at hi'
  rcases h with h | h
  · exact .inl (Nat.lt_of_lt_of_le hi' (Nat.mul_le_mul_right _ h))
  · exact .inr (Nat.le_trans (Nat.mul_le_mul_right _ h) hi)

/-- The replaced blocks are those that were written in their places. -/
theorem block_setBlocks_inside (hsize : ∀ block ∈ blocks, block.size = blockSize)
    (hfits : (start + blocks.length) * blockSize ≤ image.size) {k : Nat} (hk : k < blocks.length)
    (hcount : start + k < image.blockCount) :
    (image.setBlocks start blocks).block (start + k) = .ok blocks[k] := by
  refine block_of_agree ?_ (hsize _ (List.getElem_mem hk)) (agree_setBlocks hsize hfits hk)
  rwa [blockCount, size_setBlocks]

end Image

/-! ## The system blocks -/

/-- What the system blocks of a card say. -/
structure System where
  header : Header
  directories : Copy → Directory
  allocations : Copy → Allocation

/-- The sums that are stored in the system blocks. -/
structure SystemSums where
  header : UInt32
  directories : Copy → UInt32
  allocations : Copy → UInt32

/-- Write the system blocks, and give the sums that were stored in them. -/
def Image.write (image : Image) (s : System) : Except Failure (SystemSums × Image) := do
  let (h, header) ← s.header.write blockSize
  let (d₀, directory₀) ← (s.directories .first).write blockSize
  let (d₁, directory₁) ← (s.directories .second).write blockSize
  let (a₀, allocation₀) ← (s.allocations .first).write blockSize
  let (a₁, allocation₁) ← (s.allocations .second).write blockSize
  return (⟨h, ![d₀, d₁], ![a₀, a₁]⟩,
    image.setBlocks 0 [header, directory₀, directory₁, allocation₀, allocation₁])

namespace System

def sums (s : System) : SystemSums :=
  ⟨s.header.sum, fun d ↦ (s.directories d).sum, fun a ↦ (s.allocations a).sum⟩

/-- The system blocks in their order. -/
def blocks (s : System) : List Bytes :=
  [(s.header.encode blockSize).toByteArray,
    ((s.directories .first).encode blockSize).toByteArray,
    ((s.directories .second).encode blockSize).toByteArray,
    ((s.allocations .first).encode blockSize).toByteArray,
    ((s.allocations .second).encode blockSize).toByteArray]

theorem size_of_mem_blocks {s : System} {block : Bytes} (h : block ∈ s.blocks) :
    block.size = blockSize := by
  simp only [blocks, List.mem_cons, List.not_mem_nil, or_false] at h
  rcases h with rfl | rfl | rfl | rfl | rfl
  · rw [List.size_toByteArray, Header.length_encode _ (by decide)]
  · rw [List.size_toByteArray, Directory.length_encode _ (Nat.le_refl _)]
  · rw [List.size_toByteArray, Directory.length_encode _ (Nat.le_refl _)]
  · rw [List.size_toByteArray, Allocation.length_encode _ (Nat.le_refl _)]
  · rw [List.size_toByteArray, Allocation.length_encode _ (Nat.le_refl _)]

end System

namespace Image

variable {image : Image} {s : System}

theorem write_eq_ok (image : Image) (s : System) :
    image.write s = .ok (s.sums, image.setBlocks 0 s.blocks) := by
  have hpair {α : Type} (f : Copy → α) : ![f .first, f .second] = f := by
    funext c
    match c with
    | 0 => rfl
    | 1 => rfl
  simp only [write, Header.write, Directory.write, Allocation.write, need_eq_ok (Nat.le_refl _),
    ok_bind, pure_eq_ok, hpair fun d ↦ (s.directories d).sum, hpair fun a ↦ (s.allocations a).sum]
  rfl

/-- The system blocks of the image say what `s` says. -/
structure Stores (image : Image) (s : System) : Prop where
  header : image.bytes.Holds 0 (s.header.encode blockSize)
  directory : ∀ d, image.bytes.Holds (Directory.home d * blockSize)
    ((s.directories d).encode blockSize)
  allocation : ∀ a, image.bytes.Holds (Allocation.home a * blockSize)
    ((s.allocations a).encode blockSize)

theorem stores_setBlocks (h : 5 * blockSize ≤ image.size) :
    (image.setBlocks 0 s.blocks).Stores s := by
  have hblock {k : Nat} {bs : List UInt8} (hbs : s.blocks[k]? = some bs.toByteArray)
      (hlen : bs.length = blockSize) :
      (image.setBlocks 0 s.blocks).bytes.Holds (k * blockSize) bs := by
    obtain ⟨hk, hbs⟩ := List.getElem?_eq_some_iff.1 hbs
    have hagree := agree_setBlocks (fun _ ↦ System.size_of_mem_blocks (s := s)) h hk
    rw [Nat.zero_add, hbs] at hagree
    exact (holds_toByteArray bs).of_agree (hagree.mono (Nat.le_of_eq hlen))
  refine ⟨?_, fun d ↦ ?_, fun a ↦ ?_⟩
  · have hheader := hblock (k := 0) rfl (Header.length_encode s.header (by decide))
    rwa [Nat.zero_mul] at hheader
  · match d with
    | 0 => exact hblock (k := 1) rfl (Directory.length_encode _ (Nat.le_refl _))
    | 1 => exact hblock (k := 2) rfl (Directory.length_encode _ (Nat.le_refl _))
  · match a with
    | 0 => exact hblock (k := 3) rfl (Allocation.length_encode _ (Nat.le_refl _))
    | 1 => exact hblock (k := 4) rfl (Allocation.length_encode _ (Nat.le_refl _))

end Image
end MemoryCard
