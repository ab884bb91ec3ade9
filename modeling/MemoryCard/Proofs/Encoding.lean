import MemoryCard.Header
import MemoryCard.Proofs.Holds
import MemoryCard.Proofs.Tables

/-! # What is written is read again

Headers, entries and tables are read from where their bytes stand as they were written, and their
sums are right. A directory and an allocation table always take up a whole block: missing slots are
written as unused and missing links as free, and what is too much is left out.
-/

namespace MemoryCard

open Bytes

variable {b : Bytes} {pos room : Nat}

/-- Where the bytes of a region are known, it is intact exactly if their sum stands in its place. -/
theorem Seal.intact_iff_holds {s : Seal} {body : List UInt8} (hbody : b.Holds s.start.toNat body)
    (hstop : s.stop.toNat = s.start.toNat + body.length) (hinside : s.stop.toNat ≤ b.size) :
    s.Intact b ↔ b.Holds s.storedAt.toNat (bytes32 (DualSum.ofBytes body).packed) := by
  have hregion : s.region b = body := by
    rw [region, hstop, Nat.add_sub_cancel_left, hbody.slice_eq (hstop ▸ hinside)]
  rw [holds_bytes32, Intact, compute, hregion]

/-! ## The header -/

namespace Header

variable {h : Header}

theorem decode_eq_ok (hsize : b.size = blockSize) : decode b = .ok (read b) := by
  rw [decode, hsize]
  rfl

theorem check_eq_ok (hsize : b.size = blockSize) :
    check b = .ok ⟨b.u32 0x1FC, sumSeal.compute b⟩ :=
  Seal.Inside.verify_eq (by rw [hsize]; decide)

theorem length_encode (h : Header) (hroom : width ≤ room) : (h.encode room).length = room := by
  simp only [encode, List.length_append, length_body, length_bytes32, List.length_replicate]
  exact Nat.add_sub_cancel' hroom

theorem read_of_holds (hb : b.Holds 0 (h.encode room)) :
    read b = { h with storedSum := h.sum } := by
  simp only [encode, body, holds_append, List.length_append, Vector.length_toList, length_bytes64,
    length_bytes32, length_bytes16, List.length_replicate, Nat.reduceAdd, and_assoc] at hb
  obtain ⟨serial, time, bias, language, -, device, megabits, charset, -, sum, -⟩ := hb
  rw [read, serial.field_eq, time.u64_eq, bias.u32_eq, language.u32_eq, device.u16_eq,
    megabits.u16_eq, charset.u16_eq, sum.u32_eq]

theorem intact_of_holds (hb : b.Holds 0 (h.encode room)) (hsize : width ≤ b.size) :
    sumSeal.Intact b := by
  rw [encode, holds_append, holds_append, length_body] at hb
  exact (Seal.intact_iff_holds hb.1.1 (by rw [length_body]; rfl)
    (Nat.le_trans (by decide) hsize)).2 hb.1.2

end Header

/-! ## Entries -/

namespace Entry

theorem read_of_holds {e : Entry} (h : b.Holds pos e.encode) : read b pos = e := by
  simp only [encode, holds_append, holds_cons, List.length_append, List.length_cons,
    List.length_nil, Vector.length_toList, length_bytes16, length_bytes32, Nat.add_assoc,
    Nat.reduceAdd, and_assoc] at h
  obtain ⟨code, maker, reserved, banner, -, name, modified, address, format, speed, permission,
    copies, -, first, length, reserved2, comment⟩ := h
  rw [read, code.field_eq, maker.field_eq, reserved, banner, name.field_eq, modified.u32_eq,
    address.u32_eq, format.u16_eq, speed.u16_eq, permission, copies, first.u16_eq, length.u16_eq,
    reserved2.u16_eq, comment.u32_eq]

theorem encode_unused : unused.encode = List.replicate width 0xFF := by decide +kernel

end Entry

/-! ## Tables of a fixed length -/

theorem length_flatMap_of_width {α : Type} {f : α → List UInt8} {width : Nat}
    (hwidth : ∀ x, (f x).length = width) (l : List α) :
    (l.flatMap f).length = l.length * width := by
  simp [List.length_flatMap, hwidth]

/-- A list that is cut to `n` parts of the same width and then filled up byte by byte has the bytes
of the list that is filled up with parts. -/
theorem flatMap_fill {α : Type} {f : α → List UInt8} {width : Nat} {v : UInt8} {x : α}
    (hwidth : ∀ y, (f y).length = width) (hx : f x = List.replicate width v) (l : List α)
    {n total : Nat} (htotal : n * width ≤ total) :
    (l.take n).flatMap f ++ List.replicate (total - ((l.take n).flatMap f).length) v =
      (l.take n ++ List.replicate (n - l.length) x).flatMap f
        ++ List.replicate (total - n * width) v := by
  have hcount : (n - l.length) * width + (total - n * width) = total - min n l.length * width := by
    have hn : min n l.length + (n - l.length) = n := by omega
    have hmul : min n l.length * width + (n - l.length) * width = n * width := by
      rw [← Nat.add_mul, hn]
    omega
  rw [length_flatMap_of_width hwidth, List.length_take, ← hcount, List.flatMap_append,
    List.append_assoc, List.flatMap_replicate, hx, List.flatten_replicate_replicate,
    List.replicate_append_replicate]

/-! ## The directory -/

namespace Directory

variable {d : Directory}

/-- The directory with its fixed number of slots. -/
def fit (d : Directory) : Directory :=
  { d with entries :=
      d.entries.take slots ++ List.replicate (slots - d.entries.length) Entry.unused }

theorem length_fit (d : Directory) : d.fit.entries.length = slots := by
  rw [fit, List.length_append, List.length_take, List.length_replicate]
  omega

theorem fit_eq_self (h : d.entries.length = slots) : d.fit = d := by
  rw [fit, List.take_of_length_le (by omega), h, Nat.sub_self, List.replicate_zero,
    List.append_nil]

theorem slotBytes_eq (d : Directory) :
    d.slotBytes = d.fit.entries.flatMap Entry.encode ++ List.replicate 0x3A 0xFF :=
  flatMap_fill Entry.length_encode Entry.encode_unused d.entries (by decide)

theorem length_slotBytes (d : Directory) : d.slotBytes.length = 0x1FFA := by
  rw [slotBytes_eq, List.length_append, length_flatMap_of_width Entry.length_encode, length_fit,
    List.length_replicate]
  rfl

theorem length_body (d : Directory) : d.body.length = 0x1FFC := by
  rw [body, List.length_append, length_slotBytes, length_bytes16]

theorem length_encode (d : Directory) (hroom : blockSize ≤ room) :
    (d.encode room).length = room := by
  simp only [encode, List.length_append, length_body, length_bytes32, List.length_replicate]
  exact Nat.add_sub_cancel' hroom

theorem read_of_holds (h : b.Holds 0 (d.encode room)) :
    read b = { d.fit with storedSum := d.sum } := by
  simp only [encode, body, holds_append, List.length_append, length_slotBytes, length_bytes16,
    Nat.reduceAdd, and_assoc] at h
  obtain ⟨hslots, hcounter, hsum, -⟩ := h
  rw [slotBytes_eq, holds_append] at hslots
  have hentries : (List.range slots).map (fun slot ↦ Entry.read b (slot * Entry.width)) =
      d.fit.entries := by
    refine List.ext_getElem (by simp [length_fit]) fun i hi hi' ↦ ?_
    have hentry := (holds_flatMap Entry.length_encode).1 hslots.1 i hi'
    rw [Nat.zero_add] at hentry
    rw [List.getElem_map, List.getElem_range, Entry.read_of_holds hentry]
  rw [read, hentries, hcounter.u16_eq, hsum.u32_eq]
  rfl

theorem intact_of_holds (h : b.Holds 0 (d.encode room)) (hsize : blockSize ≤ b.size) :
    sumSeal.Intact b := by
  rw [encode, holds_append, holds_append, length_body] at h
  exact (Seal.intact_iff_holds h.1.1 (by rw [length_body]; rfl)
    (Nat.le_trans (by decide) hsize)).2 h.1.2

end Directory

/-! ## The allocation table -/

namespace Allocation

variable {a : Allocation}

/-- The table with its fixed number of links. -/
def fit (a : Allocation) : Allocation :=
  { a with links :=
      (a.links.toList.take capacity ++ List.replicate (capacity - a.links.size) freeLink).toArray }

theorem size_fit (a : Allocation) : a.fit.links.size = capacity := by
  rw [fit, List.size_toArray, List.length_append, List.length_take, List.length_replicate,
    Array.length_toList]
  omega

theorem fit_eq_self (h : a.links.size = capacity) : a.fit = a := by
  rw [fit, List.take_of_length_le (Nat.le_of_eq h), h, Nat.sub_self,
    List.replicate_zero, List.append_nil, Array.toArray_toList]

theorem linkBytes_eq (a : Allocation) : a.linkBytes = a.fit.links.toList.flatMap bytes16 := by
  have hfill := flatMap_fill (x := freeLink) (v := 0) (n := capacity) length_bytes16 rfl
    a.links.toList (Nat.le_refl (capacity * 2))
  rw [Nat.sub_self, List.replicate_zero, List.append_nil] at hfill
  exact hfill

theorem length_linkBytes (a : Allocation) : a.linkBytes.length = 0x1FF6 := by
  rw [linkBytes_eq, length_flatMap_of_width length_bytes16, Array.length_toList, size_fit]
  rfl

theorem length_body (a : Allocation) : a.body.length = 0x1FFC := by
  simp only [body, List.length_append, length_linkBytes, length_bytes16]

theorem length_encode (a : Allocation) (hroom : blockSize ≤ room) :
    (a.encode room).length = room := by
  simp only [encode, List.length_append, length_body, length_bytes32, List.length_replicate]
  exact Nat.add_sub_cancel' hroom

theorem read_of_holds (h : b.Holds 0 (a.encode room)) :
    read b = { a.fit with storedSum := a.sum } := by
  simp only [encode, body, holds_append, linkBytes_eq, List.length_append, length_bytes16,
    length_bytes32, Nat.reduceAdd, and_assoc] at h
  obtain ⟨hsum, hcounter, hfree, hlast, hlinks, -⟩ := h
  have hread : (Array.ofFn fun (i : Fin capacity) ↦ b.u16 (0x0A + i.val * 2)) = a.fit.links := by
    refine Array.ext (by rw [Array.size_ofFn, size_fit]) fun i hi hi' ↦ ?_
    rw [Array.getElem_ofFn, ((holds_flatMap length_bytes16).1 hlinks i hi').u16_eq, Array.getElem_toList]
  rw [read, hread, hcounter.u16_eq, hfree.u16_eq, hlast.u16_eq, hsum.u32_eq]
  rfl

theorem intact_of_holds (h : b.Holds 0 (a.encode room)) (hsize : blockSize ≤ b.size) :
    sumSeal.Intact b := by
  rw [encode, holds_append, holds_append, length_bytes32] at h
  exact (Seal.intact_iff_holds h.1.2 (by rw [length_body]; rfl)
    (Nat.le_trans (by decide) hsize)).2 h.1.1

end Allocation

end MemoryCard
