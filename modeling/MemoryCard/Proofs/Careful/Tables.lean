import MemoryCard.Header
import MemoryCard.Proofs.Careful.Basic
import MemoryCard.Proofs.Tables

/-! # Reading the system blocks carefully

The structures of the system blocks have fixed widths, and the length of a buffer is checked before a
field is read from it. So all requests for bytes have answers, whatever the bytes are.
-/

namespace MemoryCard

open Bytes Careful

/-! ## Blocks -/

namespace Image

def block? (i : Image) (index : Nat) : Careful Bytes :=
  if index < i.blockCount then
    ask (i.bytes.range? (index * blockSize) (index * blockSize + blockSize))
  else of (.error (.noSuchBlock index i.blockCount))

/-- The whole blocks of an image are there. -/
theorem block?_eq (i : Image) (index : Nat) : i.block? index = of (i.block index) := by
  unfold block? block
  split
  · rename_i h
    rw [range?_eq (Nat.le_add_right _ _) (block_fits h), ask_some]
  · rfl

end Image

/-! ## Sums -/

namespace Seal

def verify? (s : Seal) (b : Bytes) : Careful SumCheck :=
  if s.stop < s.start ∨ b.size < s.needed.toNat then
    of (.error (.tooShort "checksum region" s.needed.toNat b.size))
  else do
    let stored ← ask (b.u32? s.storedAt.toNat)
    let region ← ask (b.range? s.start.toNat s.stop.toNat)
    return ⟨stored, (DualSum.ofBytes region.all).packed⟩

theorem stop_le_needed (s : Seal) : s.stop.toNat ≤ s.needed.toNat := by
  rw [toNat_needed]
  exact Nat.le_max_left _ _

/-- Unless the place of the sum is at the very end of the addresses, the sum is needed as well. -/
theorem stored_le_needed {s : Seal} (h : s.storedAt.toNat + 4 < addressLimit) :
    s.storedAt.toNat + 4 ≤ s.needed.toNat := by
  rw [toNat_needed, toNat_sum (b := 4) h]
  exact Nat.le_max_right _ _

theorem compute_eq (s : Seal) (b : Bytes) (h : s.start.toNat ≤ s.stop.toNat) :
    s.compute b = (DualSum.ofBytes (all (b.extract s.start.toNat s.stop.toNat))).packed := by
  rw [compute, region, slice, Nat.add_sub_cancel' h]
  rfl

/-- What a seal is checked for is all that reading it needs. -/
theorem verify?_eq {s : Seal} (h : s.storedAt.toNat + 4 < addressLimit) (b : Bytes) :
    s.verify? b = of (s.verify b) := by
  unfold verify? verify check
  split
  · rfl
  · rename_i hregion
    rw [not_or, UInt64.not_lt, Nat.not_lt] at hregion
    obtain ⟨hrange, hneeded⟩ := hregion
    have hrange := UInt64.le_iff_toNat_le.1 hrange
    have hstop := Nat.le_trans s.stop_le_needed hneeded
    have hstored := Nat.le_trans (stored_le_needed h) hneeded
    rw [ok_bind, reach_eq_ok_iff.2 hstored, u32?, within?_eq hstored, range?_eq hrange hstop,
      compute_eq s b hrange]
    rfl

end Seal

/-! ## Structures -/

namespace Header

def read? (b : Bytes) : Option Header := do
  return {
    serial := ← b.field? 0x00 12
    formatTime := ← b.u64? 0x0C
    clockBias := ← b.u32? 0x14
    language := ← b.u32? 0x18
    deviceId := ← b.u16? 0x20
    megabits := ← b.u16? 0x22
    charsetWord := ← b.u16? 0x24
    storedSum := ← b.u32? 0x1FC }

theorem read?_eq {b : Bytes} (h : width ≤ b.size) : read? b = some (read b) := by
  have part {pos n : Nat} (hn : pos + n ≤ width) {α : Type} (answer : α) :
      b.within? pos n answer = some answer := within?_eq (Nat.le_trans hn h) answer
  simp (disch := decide) only [read?, field?, u64?, u32?, u16?, part]
  rfl

def decode? (b : Bytes) : Careful Header := do
  of (need "card header" width b.size)
  ask (read? b)

theorem decode?_eq (b : Bytes) : decode? b = of (decode b) := by
  unfold decode? decode
  refine of_bind fun _ h ↦ ?_
  rw [read?_eq (le_of_need h)]
  rfl

end Header

namespace Entry

def read? (b : Bytes) (pos : Nat) : Option Entry := do
  return {
    gameCode := ← b.field? pos 4
    maker := ← b.field? (pos + 0x04) 2
    reserved := ← b.byte? (pos + 0x06)
    bannerFormat := ← b.byte? (pos + 0x07)
    fileName := ← b.field? (pos + 0x08) 32
    modified := ← b.u32? (pos + 0x28)
    imageAddress := ← b.u32? (pos + 0x2C)
    iconFormat := ← b.u16? (pos + 0x30)
    iconSpeed := ← b.u16? (pos + 0x32)
    permission := ← b.byte? (pos + 0x34)
    copies := ← b.byte? (pos + 0x35)
    firstBlock := ← b.u16? (pos + 0x36)
    length := ← b.u16? (pos + 0x38)
    reserved2 := ← b.u16? (pos + 0x3A)
    commentAddress := ← b.u32? (pos + 0x3C) }

theorem read?_eq {b : Bytes} {pos : Nat} (h : pos + width ≤ b.size) :
    read? b pos = some (read b pos) := by
  have part {k n : Nat} (hn : k + n ≤ width) {α : Type} (answer : α) :
      b.within? (pos + k) n answer = some answer := within?_eq (by omega) answer
  have front {n : Nat} (hn : n ≤ width) {α : Type} (answer : α) :
      b.within? pos n answer = some answer :=
    within?_eq (Nat.le_trans (Nat.add_le_add_left hn pos) h) answer
  simp (disch := decide) only [read?, field?, byte?, u32?, u16?, part, front]
  rfl

end Entry

namespace Directory

def read? (b : Bytes) : Option Directory := do
  return {
    entries := ← (List.range slots).mapM fun slot ↦ Entry.read? b (slot * Entry.width)
    counter := ← b.u16? 0x1FFA
    storedSum := ← b.u32? 0x1FFC }

theorem read?_eq {b : Bytes} (h : blockSize ≤ b.size) : read? b = some (read b) := by
  have hentries : (List.range slots).mapM (fun slot ↦ Entry.read? b (slot * Entry.width)) =
      some ((List.range slots).map fun slot ↦ Entry.read b (slot * Entry.width)) :=
    mapM_eq_some fun slot hslot ↦
      Entry.read?_eq (Nat.le_trans (slot_fits (List.mem_range.1 hslot)) h)
  unfold read?
  rw [hentries, u16?, within?_eq (Nat.le_trans (by decide) h), u32?,
    within?_eq (Nat.le_trans (by decide) h)]
  rfl

def decode? (b : Bytes) : Careful Directory := do
  of (need "directory table" blockSize b.size)
  ask (read? b)

theorem decode?_eq (b : Bytes) : decode? b = of (decode b) := by
  unfold decode? decode
  refine of_bind fun _ h ↦ ?_
  rw [read?_eq (le_of_need h)]
  rfl

end Directory

namespace Allocation

def read? (b : Bytes) : Option Allocation := do
  return {
    counter := ← b.u16? 0x04
    free := ← b.u16? 0x06
    lastAllocated := ← b.u16? 0x08
    links := (← (List.finRange capacity).mapM fun i ↦ b.u16? (0x0A + i.val * 2)).toArray
    storedSum := ← b.u32? 0x00 }

theorem link_fits (i : Fin capacity) : 0x0A + i.val * 2 + 2 ≤ blockSize := by
  have := i.isLt
  simp only [capacity, blockSize] at *
  omega

theorem toArray_map_finRange {α : Type} (n : Nat) (f : Fin n → α) :
    ((List.finRange n).map f).toArray = Array.ofFn f := by
  rw [List.finRange, List.map_ofFn, List.toArray_ofFn]
  rfl

theorem read?_eq {b : Bytes} (h : blockSize ≤ b.size) : read? b = some (read b) := by
  have part {pos n : Nat} (hn : pos + n ≤ blockSize) {α : Type} (answer : α) :
      b.within? pos n answer = some answer := within?_eq (Nat.le_trans hn h) answer
  have hlinks : (List.finRange capacity).mapM (fun i ↦ b.u16? (0x0A + i.val * 2)) =
      some ((List.finRange capacity).map fun i ↦ b.u16 (0x0A + i.val * 2)) :=
    mapM_eq_some fun i _ ↦ part (link_fits i) _
  have hread : read b = ⟨b.u16 0x04, b.u16 0x06, b.u16 0x08,
      ((List.finRange capacity).map fun i ↦ b.u16 (0x0A + i.val * 2)).toArray, b.u32 0x00⟩ := by
    rw [toArray_map_finRange]
    rfl
  unfold read?
  rw [hlinks, hread]
  simp (disch := decide) only [u32?, u16?, part]
  rfl

def decode? (b : Bytes) : Careful Allocation := do
  of (need "block allocation table" blockSize b.size)
  ask (read? b)

theorem decode?_eq (b : Bytes) : decode? b = of (decode b) := by
  unfold decode? decode
  refine of_bind fun _ h ↦ ?_
  rw [read?_eq (le_of_need h)]
  rfl

end Allocation

/-! ## Tables -/

namespace Directory

def load? (image : Image) (n : UInt8) : Careful (Checked Directory) := do
  let c ← of (Copy.ofByte? n)
  let block ← image.block? (home c)
  let table ← decode? block
  let sum ← sumSeal.verify? block
  return ⟨table, sum, sum.valid, none⟩

theorem load?_eq (image : Image) (n : UInt8) : load? image n = of (load image n) := by
  unfold load? load
  refine of_bind fun c _ ↦ ?_
  rw [image.block?_eq]
  refine of_bind fun block _ ↦ ?_
  rw [decode?_eq]
  refine of_bind fun table _ ↦ ?_
  rw [Seal.verify?_eq (by decide)]
  exact of_bind fun sum _ ↦ rfl

end Directory

namespace Allocation

def load? (image : Image) (size : UInt16) (n : UInt8) : Careful (Checked Allocation) := do
  let c ← of (Copy.ofByte? n)
  let block ← image.block? (home c)
  let table ← decode? block
  let sum ← sumSeal.verify? block
  return ⟨table, sum, sum.valid && table.isConsistent size, none⟩

theorem load?_eq (image : Image) (size : UInt16) (n : UInt8) :
    load? image size n = of (load image size n) := by
  unfold load? load
  refine of_bind fun c _ ↦ ?_
  rw [image.block?_eq]
  refine of_bind fun block _ ↦ ?_
  rw [decode?_eq]
  refine of_bind fun table _ ↦ ?_
  rw [Seal.verify?_eq (by decide)]
  exact of_bind fun sum _ ↦ rfl

end Allocation

namespace Tables

def load? (image : Image) (size : UInt16) : Option Tables := do
  let directory? n := (Directory.load? image n).run.map (Checked.ofResult (Directory.empty 0))
  let allocation? n :=
    (Allocation.load? image size n).run.map (Checked.ofResult (Allocation.blank 0 size))
  return {
    directories := Copies.ofPair Directory.counter (← directory? 0) (← directory? 1)
    allocations := Copies.ofPair Allocation.counter (← allocation? 0) (← allocation? 1) }

theorem load?_eq (image : Image) (size : UInt16) : load? image size = some (load image size) := by
  simp only [load?, Directory.load?_eq, Allocation.load?_eq]
  rfl

end Tables

end MemoryCard
