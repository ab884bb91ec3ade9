import MemoryCard.Directory.Table
import MemoryCard.Image
import MemoryCard.Proofs.Bytes
import MemoryCard.Proofs.Result

/-! # Parts of an image

What is read from a part of an image depends on the bytes of that part only. A block is as long as
it should be, and an entry that is read from a block is the one that stands in the image at the
place where the block lies.
-/

namespace MemoryCard

namespace Bytes

variable {b b' : Bytes} {pos pos' : Nat}

theorem byte_extract (b : Bytes) {start stop pos : Nat} (h : start + pos < stop) :
    byte (b.extract start stop) pos = b.byte (start + pos) := by
  unfold byte
  by_cases hin : start + pos < b.size
  · rw [dif_pos (by rw [ByteArray.size_extract]; omega), dif_pos hin, ByteArray.getElem_extract]
  · rw [dif_neg (by rw [ByteArray.size_extract]; omega), dif_neg hin]

/-- A part of a buffer depends on the bytes of that part only. -/
theorem extract_congr {start stop : Nat} (hsize : b.size = b'.size)
    (h : ∀ i, start ≤ i → i < stop → b.byte i = b'.byte i) :
    b.extract start stop = b'.extract start stop := by
  have hsizes : (b.extract start stop).size = (b'.extract start stop).size := by
    rw [ByteArray.size_extract, ByteArray.size_extract, hsize]
  refine ext_byte hsizes fun i ↦ ?_
  by_cases hi : start + i < stop
  · rw [byte_extract b hi, byte_extract b' hi, h _ (Nat.le_add_right _ _) hi]
  · have hbehind : (b.extract start stop).size ≤ i := by
      rw [ByteArray.size_extract]
      omega
    rw [byte_of_size_le hbehind, byte_of_size_le (hsizes ▸ hbehind)]

/-- The `n` bytes from `pos` on in one buffer are those from `pos'` on in another. -/
def Agree (n : Nat) (b : Bytes) (pos : Nat) (b' : Bytes) (pos' : Nat) : Prop :=
  ∀ i < n, b.byte (pos + i) = b'.byte (pos' + i)

namespace Agree

variable {n : Nat}

theorem mono {m : Nat} (h : Agree n b pos b' pos') (hm : m ≤ n) : Agree m b pos b' pos' :=
  fun i hi ↦ h i (by omega)

theorem drop (h : Agree n b pos b' pos') {k m : Nat} (hk : k + m ≤ n) :
    Agree m b (pos + k) b' (pos' + k) := fun i hi ↦ by
  rw [Nat.add_assoc, Nat.add_assoc]
  exact h (k + i) (by omega)

theorem byte_eq (h : Agree n b pos b' pos') (hn : 0 < n) : b.byte pos = b'.byte pos' := h 0 hn

theorem number_eq (h : Agree n b pos b' pos') : b.number pos n = b'.number pos' n := by
  induction n with
  | zero => rfl
  | succ n ih => rw [number, number, ih (h.mono (by omega)), h n (by omega)]

theorem u16_eq (h : Agree 2 b pos b' pos') : b.u16 pos = b'.u16 pos' :=
  congrArg Nat.toUInt16 h.number_eq

theorem u32_eq (h : Agree 4 b pos b' pos') : b.u32 pos = b'.u32 pos' :=
  congrArg Nat.toUInt32 h.number_eq

theorem u64_eq (h : Agree 8 b pos b' pos') : b.u64 pos = b'.u64 pos' :=
  congrArg Nat.toUInt64 h.number_eq

theorem field_eq (h : Agree n b pos b' pos') : b.field pos n = b'.field pos' n :=
  congrArg Vector.ofFn (funext fun i ↦ h i i.isLt)

end Agree

theorem agree_extract (b : Bytes) {start stop pos n : Nat} (h : start + pos + n ≤ stop) :
    Agree n (b.extract start stop) pos b (start + pos) := fun i hi ↦ by
  rw [byte_extract b (by omega), Nat.add_assoc]

theorem byte_empty (pos : Nat) : byte .empty pos = 0 := dif_neg (Nat.not_lt_zero pos)

/-- Some bytes with zeros on both sides. -/
def padded (before : Nat) (bs : List UInt8) (after : Nat) : Bytes :=
  (List.replicate before 0 ++ (bs ++ List.replicate after 0)).toByteArray

theorem byte_padded {before after pos : Nat} {bs : List UInt8}
    (h : pos < before ∨ before + bs.length ≤ pos) : (padded before bs after).byte pos = 0 := by
  rw [byte_eq, padded, all_toByteArray]
  rcases h with h | h
  · rw [List.getElem?_append_left (by rwa [List.length_replicate]), List.getElem?_replicate,
      if_pos h]
    rfl
  · rw [List.getElem?_append_right (by rw [List.length_replicate]; omega), List.length_replicate,
      List.getElem?_append_right (by omega), List.getElem?_replicate]
    split <;> rfl

theorem agree_padded (before after : Nat) (bs : List UInt8) :
    Agree bs.length (padded before bs after) before bs.toByteArray 0 := fun i hi ↦ by
  rw [byte_eq, padded, all_toByteArray, byte_eq, all_toByteArray,
    List.getElem?_append_right (by rw [List.length_replicate]; omega), List.length_replicate,
    List.getElem?_append_left (by omega), Nat.add_sub_cancel_left, Nat.zero_add]

end Bytes

namespace Entry

open Bytes

/-- An entry is read from its own bytes. -/
theorem read_congr {b b' : Bytes} {pos pos' : Nat} (h : Agree width b pos b' pos') :
    read b pos = read b' pos' := by
  have part (k m : Nat) (hk : k + m ≤ width) : Agree m b (pos + k) b' (pos' + k) := h.drop hk
  unfold read
  rw [(h.mono (by decide) : Agree 4 b pos b' pos').field_eq,
    (part 0x04 2 (by decide)).field_eq, (part 0x06 1 (by decide)).byte_eq (by decide),
    (part 0x07 1 (by decide)).byte_eq (by decide), (part 0x08 32 (by decide)).field_eq,
    (part 0x28 4 (by decide)).u32_eq, (part 0x2C 4 (by decide)).u32_eq,
    (part 0x30 2 (by decide)).u16_eq, (part 0x32 2 (by decide)).u16_eq,
    (part 0x34 1 (by decide)).byte_eq (by decide), (part 0x35 1 (by decide)).byte_eq (by decide),
    (part 0x36 2 (by decide)).u16_eq, (part 0x38 2 (by decide)).u16_eq,
    (part 0x3A 2 (by decide)).u16_eq, (part 0x3C 4 (by decide)).u32_eq]

theorem read_extract (b : Bytes) {start stop pos : Nat} (h : start + pos + width ≤ stop) :
    read (b.extract start stop) pos = read b (start + pos) :=
  read_congr (agree_extract b h)

/-- Decoding the bytes of an entry gives the entry that is read where they stand. -/
theorem decode_extract (b : Bytes) {pos : Nat} (h : pos + width ≤ b.size) :
    decode (b.extract pos (pos + width)) = .ok (read b pos) := by
  have hsize : (b.extract pos (pos + width)).size = width := by
    rw [ByteArray.size_extract]
    omega
  rw [decode, need_eq_ok (by omega), ok_bind, read_extract b (by omega)]
  rfl

end Entry

theorem Directory.slot_fits {slot : Nat} (h : slot < slots) :
    slot * Entry.width + Entry.width ≤ blockSize := by
  simp only [slots, blockSize, Entry.width] at *
  omega

namespace Image

variable {image : Image} {index : Nat} {data : Bytes}

theorem block_eq_ok : image.block index = .ok data ↔
    index < image.blockCount ∧
      data = image.bytes.extract (index * blockSize) (index * blockSize + blockSize) := by
  unfold block
  by_cases h : index < image.blockCount
  · simp [h, eq_comm]
  · simp [h]

/-- A block depends on its own bytes only. -/
theorem block_congr {image' : Image} (hsize : image'.size = image.size)
    (h : ∀ i, index * blockSize ≤ i → i < index * blockSize + blockSize →
      image'.bytes.byte i = image.bytes.byte i) : image'.block index = image.block index := by
  have hcount : image'.blockCount = image.blockCount := by rw [blockCount, hsize, blockCount]
  rw [block, block, hcount, Bytes.extract_congr hsize h]

/-- The whole blocks that an image counts are there. -/
theorem block_fits (h : index < image.blockCount) : index * blockSize + blockSize ≤ image.size := by
  have hcount : image.blockCount ≤ image.size / blockSize := Nat.mod_le _ _
  rw [← Nat.succ_mul]
  exact (Nat.le_div_iff_mul_le (by decide)).1 (Nat.le_trans h hcount)

theorem five_le_blockCount (hsize : 5 * blockSize ≤ image.size)
    (hcount : image.size / blockSize < 0x100000000) : 5 ≤ image.blockCount := by
  rw [blockCount, Nat.mod_eq_of_lt hcount]
  exact (Nat.le_div_iff_mul_le (by decide)).2 hsize

theorem size_block (h : image.block index = .ok data) : data.size = blockSize := by
  obtain ⟨hindex, rfl⟩ := block_eq_ok.1 h
  have hfits : index * blockSize + blockSize ≤ image.bytes.size := block_fits hindex
  rw [ByteArray.size_extract]
  omega

/-- A block that has the bytes of a buffer is that buffer. -/
theorem block_of_agree (hindex : index < image.blockCount) (hdata : data.size = blockSize)
    (h : Bytes.Agree blockSize image.bytes (index * blockSize) data 0) :
    image.block index = .ok data := by
  refine block_eq_ok.2 ⟨hindex, ?_⟩
  have hsize := hdata.trans (size_block (block_eq_ok.2 ⟨hindex, rfl⟩)).symm
  refine Bytes.ext_byte hsize fun i ↦ ?_
  by_cases hi : i < blockSize
  · rw [Bytes.byte_extract _ (Nat.add_lt_add_left hi _), h i hi, Nat.zero_add]
  · rw [Bytes.byte_of_size_le (by omega), Bytes.byte_of_size_le (by omega)]

/-- The place of an entry tells the block in which it is. -/
theorem div_blockSize {pos : Nat} (h : pos + Entry.width ≤ blockSize) :
    (index * blockSize + pos) / blockSize = index := by
  simp only [blockSize, Entry.width] at *
  omega

theorem entry_fits {count pos : Nat} (hindex : index < count) (h : pos + Entry.width ≤ blockSize) :
    index * blockSize + pos + Entry.width ≤ count * blockSize := by
  calc index * blockSize + pos + Entry.width
    _ ≤ index * blockSize + blockSize := by rw [Nat.add_assoc]; exact Nat.add_le_add_left h _
    _ = (index + 1) * blockSize := (Nat.succ_mul index blockSize).symm
    _ ≤ count * blockSize := Nat.mul_le_mul_right _ hindex

/-- An entry in a block is an entry in the image. -/
theorem read_block (h : image.block index = .ok data) {pos : Nat}
    (hpos : pos + Entry.width ≤ blockSize) :
    Entry.read data pos = Entry.read image.bytes (index * blockSize + pos) ∧
      index * blockSize + pos + Entry.width ≤ image.size := by
  obtain ⟨hindex, rfl⟩ := block_eq_ok.1 h
  have hinside : index * blockSize + pos + Entry.width ≤ index * blockSize + blockSize := by
    rw [Nat.add_assoc]
    exact Nat.add_le_add_left hpos _
  exact ⟨Entry.read_extract _ hinside, Nat.le_trans hinside (block_fits hindex)⟩

end Image
end MemoryCard
