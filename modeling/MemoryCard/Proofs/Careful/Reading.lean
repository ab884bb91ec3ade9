import MemoryCard.Card.Basic
import MemoryCard.Proofs.Careful.Tables

/-! # Reading files carefully

A file is read in turns, one for each block that is touched. A position in the file tells which
element of the chain the block is and where in the block the reading goes on. The loop stays inside
the chain as long as its end does, and after at most as many turns as the chain has blocks it is done.
-/

namespace MemoryCard

open Bytes Careful

namespace SaveFile

variable {image : Image} {chain : List UInt16} {stop turns pos skip len : Nat}

def blocks? (f : SaveFile) (image : Image) : Careful (List Bytes) :=
  f.chain.mapM fun block ↦ image.block? block.toNat

theorem blocks?_eq (f : SaveFile) (image : Image) : f.blocks? image = of (f.blocks image) :=
  mapM_of fun block _ ↦ image.block?_eq block.toNat

/-! ## Chains read from inside -/

@[simp] theorem readChain_nil (image : Image) (skip len : Nat) :
    readChain image [] skip len = .ok .empty := by
  rw [readChain]

@[simp] theorem readChain_zero (image : Image) (chain : List UInt16) (skip : Nat) :
    readChain image chain skip 0 = .ok .empty := by
  cases chain with
  | nil => rw [readChain]
  | cons block rest => rw [readChain, if_pos rfl]

/-- Whole blocks that are skipped need not be looked at. -/
theorem readChain_drop (image : Image) (chain : List UInt16) (skip len : Nat) :
    readChain image chain skip len =
      readChain image (chain.drop (skip / blockSize)) (skip % blockSize) len := by
  rcases Nat.eq_zero_or_pos len with rfl | hlen
  · rw [readChain_zero, readChain_zero]
  induction chain generalizing skip with
  | nil => rw [List.drop_nil, readChain_nil, readChain_nil]
  | cons block rest ih =>
      rcases Nat.lt_or_ge skip blockSize with hskip | hskip
      · rw [Nat.div_eq_of_lt hskip, Nat.mod_eq_of_lt hskip, List.drop_zero]
      · rw [readChain, if_neg (Nat.ne_of_gt hlen), if_pos hskip, ih,
          Nat.div_eq_sub_div (by decide) hskip, Nat.mod_eq_sub_mod hskip, List.drop_succ_cons]

theorem size_readChain {data : Bytes} (hfits : skip + len ≤ chain.length * blockSize)
    (h : readChain image chain skip len = .ok data) : data.size = len := by
  induction chain generalizing skip len data with
  | nil =>
      rw [List.length_nil, Nat.zero_mul] at hfits
      rw [readChain_nil] at h
      cases h
      exact (Nat.eq_zero_of_add_eq_zero_left (Nat.le_zero.1 hfits)).symm
  | cons block rest ih =>
      rw [List.length_cons, Nat.succ_mul] at hfits
      unfold readChain at h
      split_ifs at h with hlen hskip
      · cases h
        exact hlen.symm
      · exact ih (by omega) h
      · obtain ⟨whole, hwhole, h⟩ := bind_eq_ok.1 h
        obtain ⟨more, hmore, h⟩ := bind_eq_ok.1 h
        cases h
        rw [ByteArray.size_append, ByteArray.size_extract, Image.size_block hwhole,
          ih (by omega) hmore]
        omega

/-! ## The loop -/

/-- How many bytes a turn at `pos` reads: up to the end of the block, or to `stop`. -/
def span (stop pos : Nat) : Nat := min (blockSize - pos % blockSize) (stop - pos)

/-- The bytes that one turn reads. -/
def turn? (image : Image) (chain : List UInt16) (stop pos : Nat) : Careful Bytes := do
  let block ← ask chain[pos / blockSize]?
  let room ← ask (difference? blockSize (pos % blockSize))
  let left ← ask (difference? stop pos)
  let data ← image.block? block.toNat
  ask (data.range? (pos % blockSize) (pos % blockSize + min room left))

/-- The bytes from `pos` to the one before `stop`, which are read in at most `turns` turns. -/
def readFrom? (image : Image) (chain : List UInt16) (stop : Nat) : Nat → Nat → Careful Bytes
  | 0, pos => if pos < stop then ask none else return .empty
  | turns + 1, pos =>
    if pos < stop then do
      let part ← turn? image chain stop pos
      let more ← readFrom? image chain stop turns (pos + span stop pos)
      return part ++ more
    else return .empty

/-- A turn that does not reach the end leads to the beginning of the next block. -/
theorem next_block (h : pos + span stop pos < stop) :
    pos + span stop pos = (pos / blockSize + 1) * blockSize := by
  have hdiv := Nat.div_add_mod pos blockSize
  have hmod : pos % blockSize < blockSize := Nat.mod_lt _ (by decide)
  unfold span at h ⊢
  rw [Nat.succ_mul, Nat.mul_comm]
  omega

theorem turn?_eq (hpos : pos < stop) (hindex : pos / blockSize < chain.length) :
    turn? image chain stop pos = of ((image.block chain[pos / blockSize].toNat).map fun data ↦
      data.extract (pos % blockSize) (pos % blockSize + span stop pos)) := by
  have hskip : pos % blockSize < blockSize := Nat.mod_lt _ (by decide)
  unfold turn?
  simp only [List.getElem?_eq_getElem hindex, difference?_eq (Nat.le_of_lt hskip),
    difference?_eq (Nat.le_of_lt hpos), ask_some, of_ok_bind, image.block?_eq]
  cases hdata : image.block chain[pos / blockSize].toNat with
  | error failure => rfl
  | ok data =>
      have hend : pos % blockSize + span stop pos ≤ data.size := by
        rw [Image.size_block hdata, span]
        omega
      exact congrArg ask (range?_eq (Nat.le_add_right _ _) hend)

/-- What is read from a position on is what one turn reads there, and then the rest. -/
theorem readChain_turn (hpos : pos < stop) (hindex : pos / blockSize < chain.length) :
    readChain image (chain.drop (pos / blockSize)) (pos % blockSize) (stop - pos) = do
      let part ← (image.block chain[pos / blockSize].toNat).map fun data ↦
        data.extract (pos % blockSize) (pos % blockSize + span stop pos)
      let next := pos + span stop pos
      let more ← readChain image (chain.drop (next / blockSize)) (next % blockSize) (stop - next)
      return part ++ more := by
  have hskip : pos % blockSize < blockSize := Nat.mod_lt _ (by decide)
  have hrest : readChain image (chain.drop (pos / blockSize + 1)) 0 (stop - pos - span stop pos) =
      readChain image (chain.drop ((pos + span stop pos) / blockSize))
        ((pos + span stop pos) % blockSize) (stop - (pos + span stop pos)) := by
    rw [Nat.sub_sub]
    rcases Nat.lt_or_ge (pos + span stop pos) stop with hmore | hdone
    · rw [next_block hmore, Nat.mul_div_cancel _ (by decide), Nat.mul_mod_left]
    · rw [Nat.sub_eq_zero_of_le hdone, readChain_zero, readChain_zero]
  rw [List.drop_eq_getElem_cons hindex, readChain, if_neg (Nat.sub_ne_zero_of_lt hpos),
    if_neg (Nat.not_le.2 hskip)]
  cases image.block chain[pos / blockSize].toNat with
  | error failure => rfl
  | ok data =>
      simp only [← hrest]
      rfl

theorem readFrom?_of_le (h : stop ≤ pos) :
    readFrom? image chain stop turns pos = of (.ok .empty) := by
  cases turns with
  | zero => exact if_neg (Nat.not_lt.2 h)
  | succ turns => exact if_neg (Nat.not_lt.2 h)

theorem readFrom?_eq (hstop : stop ≤ chain.length * blockSize)
    (hturns : pos < stop → chain.length ≤ pos / blockSize + turns) :
    readFrom? image chain stop turns pos =
      of (readChain image (chain.drop (pos / blockSize)) (pos % blockSize) (stop - pos)) := by
  induction turns generalizing pos with
  | zero =>
      have hpos : stop ≤ pos := by
        refine Nat.not_lt.1 fun hpos ↦ Nat.not_le.2 hpos ?_
        exact Nat.le_trans hstop ((Nat.le_div_iff_mul_le (by decide)).1 (hturns hpos))
      rw [readFrom?_of_le hpos, Nat.sub_eq_zero_of_le hpos, readChain_zero]
  | succ turns ih =>
      rcases Nat.lt_or_ge pos stop with hpos | hpos
      · have hindex : pos / blockSize < chain.length :=
          (Nat.div_lt_iff_lt_mul (by decide)).2 (Nat.lt_of_lt_of_le hpos hstop)
        have hleft : pos + span stop pos < stop →
            chain.length ≤ (pos + span stop pos) / blockSize + turns := fun hmore ↦ by
          rw [next_block hmore, Nat.mul_div_cancel _ (by decide), Nat.succ_add_eq_add_succ]
          exact hturns hpos
        rw [readFrom?, if_pos hpos, turn?_eq hpos hindex, readChain_turn hpos hindex, ih hleft]
        exact of_bind fun part _ ↦ of_bind fun more _ ↦ rfl
      · rw [readFrom?_of_le hpos, Nat.sub_eq_zero_of_le hpos, readChain_zero]

def readAt? (f : SaveFile) (image : Image) (offset len : Nat) : Careful Bytes :=
  if offset + len ≤ f.capacity ∧ offset + len < addressLimit then
    readFrom? image f.chain (offset + len) f.chain.length offset
  else of (.error (.tooShort "file data" (min (offset + len) (addressLimit - 1)) f.capacity))

theorem readAt?_eq (f : SaveFile) (image : Image) (offset len : Nat) :
    f.readAt? image offset len = of (f.readAt image offset len) := by
  unfold readAt? readAt
  split
  · rename_i h
    rw [readFrom?_eq h.1 fun _ ↦ Nat.le_add_left _ _, ← readChain_drop, Nat.add_sub_cancel_left]
  · rfl

theorem size_readAt {f : SaveFile} {offset : Nat} {data : Bytes}
    (h : f.readAt image offset len = .ok data) : data.size = len := by
  unfold readAt at h
  split at h
  · rename_i hfits
    exact size_readChain hfits.1 h
  · cases h

/-! ## Comments -/

def comments? (f : SaveFile) (image : Image) : Careful (String × String) := do
  let raw ← f.readAt? image f.entry.commentAddress.toNat (2 * commentWidth)
  let first ← ask (raw.range? 0 commentWidth)
  let second ← ask (raw.range? commentWidth raw.size)
  return (Text.title first.all f.charset, Text.title second.all f.charset)

theorem comments?_eq (f : SaveFile) (image : Image) :
    f.comments? image = of (f.comments image) := by
  unfold comments? comments
  rw [readAt?_eq]
  refine of_bind fun raw hraw ↦ ?_
  have hsize := size_readAt hraw
  have hwidth : commentWidth ≤ raw.size := hsize ▸ by decide
  rw [range?_eq (Nat.zero_le _) hwidth, range?_eq hwidth (Nat.le_refl _), hsize]
  rfl

end SaveFile

/-! ## Blocks of a card -/

namespace Card

def block? (c : Card) (index : UInt16) : Careful Bytes :=
  if c.size ≤ index then of (.error (.noSuchBlock index.toNat c.size.toNat))
  else c.image.block? index.toNat

theorem block?_eq (c : Card) (index : UInt16) : c.block? index = of (c.block index) := by
  unfold block? block
  split
  · rfl
  · exact c.image.block?_eq _

theorem size_block {c : Card} {index : UInt16} {data : Bytes} (h : c.block index = .ok data) :
    data.size = blockSize := by
  unfold block at h
  split at h
  · cases h
  · exact Image.size_block h

def readBlock? (c : Card) (index : UInt16) (buffer : Bytes) : Careful Bytes :=
  if buffer.size < blockSize then of (.error (.smallBuffer blockSize buffer.size))
  else do
    let data ← c.block? index
    ask (buffer.copied? 0 blockSize data)

theorem readBlock?_eq (c : Card) (index : UInt16) (buffer : Bytes) :
    c.readBlock? index buffer = of (c.readBlock index buffer) := by
  unfold readBlock? readBlock
  split
  · rfl
  · rename_i hroom
    rw [block?_eq]
    refine of_bind fun data hdata ↦ ?_
    rw [copied?_eq (size_block hdata) (Nat.zero_add _ ▸ Nat.not_lt.1 hroom)]
    rfl

end Card

end MemoryCard
