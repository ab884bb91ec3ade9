import MemoryCard.Proofs.Encoding

/-! # What is read is written again

The fields of an entry cover all of its bytes, and so do those of an allocation table that has the right
sum. Headers and directories have places that belong to no field. What stands there is not read, and a
block is only written again as it was if it has what is always written in these places.
-/

namespace MemoryCard

open Bytes

variable {b : Bytes}

/-! ## Entries -/

namespace Entry

theorem holds_encode_read (b : Bytes) (pos : Nat) : b.Holds pos (read b pos).encode := by
  simp only [encode, holds_append, holds_cons, List.length_append, List.length_cons,
    List.length_nil, Vector.length_toList, length_bytes16, length_bytes32, Nat.add_assoc,
    Nat.reduceAdd, and_assoc, holds_bytes16, holds_bytes32]
  exact ⟨holds_field b _ _, holds_field b _ _, rfl, rfl, holds_nil b _, holds_field b _ _, rfl, rfl,
    rfl, rfl, rfl, rfl, holds_nil b _, rfl, rfl, rfl, rfl⟩

theorem decode_eq_ok (h : b.size = width) : decode b = .ok (read b 0) := by
  rw [decode, need_eq_ok (Nat.le_of_eq h.symm)]
  rfl

theorem encode_read_eq (h : b.size = width) : (read b 0).encode.toByteArray = b :=
  (toByteArray_eq_iff (by rw [length_encode, h])).2 (holds_encode_read b 0)

end Entry

/-! ## Blocks that are written again -/

/-- What is decoded from a block can be written to a block and has a sum to be checked. The block that is
written is the one that was there exactly if the sum is valid and the block is `kept`. -/
def RewritesIf {α : Type} (decode : Bytes → Except Failure α)
    (write : α → Nat → Except Failure (UInt32 × Bytes)) (check : Bytes → Except Failure SumCheck)
    (b : Bytes) (kept : Prop) : Prop :=
  ∃ x sum out c, decode b = .ok x ∧ write x blockSize = .ok (sum, out) ∧ check b = .ok c ∧
    (out = b ↔ c.valid = true ∧ kept)

/-- A region stands beside its sum exactly if it is intact and has the right bytes. -/
theorem Seal.holds_iff_intact {s : Seal} {body : List UInt8}
    (hstop : s.stop.toNat = s.start.toNat + body.length) (hinside : s.stop.toNat ≤ b.size) :
    b.Holds s.start.toNat body ∧
        b.Holds s.storedAt.toNat (bytes32 (DualSum.ofBytes body).packed) ↔
      s.Intact b ∧ b.Holds s.start.toNat body := by
  rw [and_comm]
  exact and_congr_left fun hbody ↦ (intact_iff_holds hbody hstop hinside).symm

theorem rewritesIf_of {α : Type} {decode : Bytes → Except Failure α}
    {write : α → Nat → Except Failure (UInt32 × Bytes)} {s : Seal} {x : α} {sum : UInt32}
    {out : Bytes} {kept : Prop} (hdecode : decode b = .ok x)
    (hwrite : write x blockSize = .ok (sum, out)) (hinside : s.Inside b.size)
    (hout : out = b ↔ s.Intact b ∧ kept) : RewritesIf decode write s.verify b kept :=
  ⟨x, sum, out, _, hdecode, hwrite, hinside.verify_eq, by
    rw [hout, SumCheck.valid_iff]
    rfl⟩

/-! ## The allocation table -/

namespace Allocation

theorem holds_body_read (b : Bytes) : b.Holds 4 (read b).body := by
  have hsize : (read b).links.size = capacity := by rw [read, Array.size_ofFn]
  simp only [body, holds_append, List.length_append, length_bytes16, linkBytes_eq, fit_eq_self hsize,
    holds_bytes16, holds_flatMap length_bytes16, and_assoc]
  refine ⟨rfl, rfl, rfl, fun i hi ↦ ?_⟩
  rw [Array.getElem_toList]
  simp only [read, Array.getElem_ofFn]

theorem encode_read_eq_iff (h : b.size = blockSize) :
    ((read b).encode blockSize).toByteArray = b ↔ sumSeal.Intact b := by
  rw [toByteArray_eq_iff (by rw [length_encode _ (Nat.le_refl _), h]), encode, Nat.sub_self,
    List.replicate_zero, List.append_nil, holds_append, length_bytes32, and_comm]
  refine Iff.trans ?_ (and_iff_left (holds_body_read b))
  exact Seal.holds_iff_intact (s := sumSeal) (by rw [length_body]; rfl) (Nat.le_of_eq h.symm)

theorem rewritesIf (h : b.size = blockSize) : RewritesIf decode write check b True :=
  rewritesIf_of (decode_eq_ok h) rfl (by rw [h]; decide) (by rw [encode_read_eq_iff h, and_true])

end Allocation

/-! ## The directory -/

namespace Directory

/-- No field of a directory is behind its slots and in front of its counter. -/
theorem holds_body_read : b.Holds 0 (read b).body ↔ b.Filled 0x1FC0 0x1FFA 0xFF := by
  have hslots : b.Holds 0 ((read b).entries.flatMap Entry.encode) := by
    refine (holds_flatMap Entry.length_encode).2 fun i hi ↦ ?_
    simp only [read, List.getElem_map, List.getElem_range, Nat.zero_add]
    exact Entry.holds_encode_read b _
  rw [body, holds_append, holds_bytes16, length_slotBytes, slotBytes_eq,
    fit_eq_self (length_read b), holds_append, length_flatMap_of_width Entry.length_encode,
    length_read, holds_replicate]
  exact ⟨fun h ↦ h.1.2, fun h ↦ ⟨⟨hslots, h⟩, rfl⟩⟩

theorem encode_read_eq_iff (h : b.size = blockSize) : ((read b).encode blockSize).toByteArray = b ↔
    sumSeal.Intact b ∧ b.Filled 0x1FC0 0x1FFA 0xFF := by
  rw [toByteArray_eq_iff (by rw [length_encode _ (Nat.le_refl _), h]), encode, Nat.sub_self,
    List.replicate_zero, List.append_nil, holds_append, length_body, ← holds_body_read]
  exact Seal.holds_iff_intact (s := sumSeal) (by rw [length_body]; rfl) (by rw [h]; decide)

theorem rewritesIf (h : b.size = blockSize) :
    RewritesIf decode write check b (b.Filled 0x1FC0 0x1FFA 0xFF) :=
  rewritesIf_of (decode_eq_ok h) rfl (by rw [h]; decide) (encode_read_eq_iff h)

end Directory

/-! ## The header -/

namespace Header

/-- No field of a header is behind the language and in front of the device, or behind the character set
and in front of the sum. -/
theorem holds_body_read : b.Holds 0 (read b).body ↔
    b.Filled 0x1C 0x20 0x00 ∧ b.Filled 0x26 0x1FC 0xFF := by
  have hzeros : bytes32 0 = List.replicate 4 0 := rfl
  simp only [body, hzeros, holds_append, List.length_append, Vector.length_toList, length_bytes64,
    length_bytes32, length_bytes16, List.length_replicate, Nat.reduceAdd, and_assoc, holds_bytes16,
    holds_bytes32, holds_bytes64, holds_replicate]
  constructor
  · rintro ⟨-, -, -, -, hzeros, -, -, -, hones⟩
    exact ⟨hzeros, hones⟩
  · rintro ⟨hzeros, hones⟩
    exact ⟨holds_field b _ _, rfl, rfl, rfl, hzeros, rfl, rfl, rfl, hones⟩

theorem encode_read_eq_iff (h : b.size = blockSize) : ((read b).encode blockSize).toByteArray = b ↔
    sumSeal.Intact b ∧ b.Filled 0x1C 0x20 0x00 ∧ b.Filled 0x26 0x1FC 0xFF ∧
      b.Filled 0x200 0x2000 0xFF := by
  rw [toByteArray_eq_iff (by rw [length_encode _ (by decide), h]), encode, holds_append,
    holds_append, length_body, List.length_append, length_body, length_bytes32, holds_replicate,
    ← and_assoc (a := b.Filled 0x1C 0x20 0x00), ← holds_body_read, ← and_assoc]
  refine and_congr_left fun _ ↦ ?_
  exact Seal.holds_iff_intact (s := sumSeal) (by rw [length_body]; rfl) (by rw [h]; decide)

theorem rewritesIf (h : b.size = blockSize) : RewritesIf decode write check b
    (b.Filled 0x1C 0x20 0x00 ∧ b.Filled 0x26 0x1FC 0xFF ∧ b.Filled 0x200 0x2000 0xFF) :=
  rewritesIf_of (decode_eq_ok h) rfl (by rw [h]; decide) (encode_read_eq_iff h)

end Header

/-! ## All structures -/

/-- The bytes of an entry and the entry determine each other. A block with an allocation table is the
same after the table has been read and written exactly if its sum is valid. With a directory, the bytes
behind the slots have to be `FF` as well; with a header, the bytes in front of the device have to be zero
and those behind the character set and behind the sum `FF`. -/
theorem rewriting :
    (∀ b : Bytes, b.size = Entry.width →
      ∃ e, Entry.decode b = .ok e ∧ e.encode.toByteArray = b) ∧
    (∀ e : Entry, e.encode.length = Entry.width ∧ Entry.decode e.encode.toByteArray = .ok e) ∧
    ∀ b : Bytes, b.size = blockSize →
      RewritesIf Allocation.decode Allocation.write Allocation.check b True ∧
      RewritesIf Directory.decode Directory.write Directory.check b
        (b.Filled 0x1FC0 0x1FFA 0xFF) ∧
      RewritesIf Header.decode Header.write Header.check b
        (b.Filled 0x1C 0x20 0x00 ∧ b.Filled 0x26 0x1FC 0xFF ∧ b.Filled 0x200 0x2000 0xFF) := by
  refine ⟨fun b h ↦ ⟨Entry.read b 0, Entry.decode_eq_ok h, Entry.encode_read_eq h⟩,
    fun e ↦ ⟨Entry.length_encode e, ?_⟩,
    fun b h ↦ ⟨Allocation.rewritesIf h, Directory.rewritesIf h, Header.rewritesIf h⟩⟩
  have hsize : e.encode.toByteArray.size = Entry.width := by
    rw [← length_all, all_toByteArray, Entry.length_encode]
  rw [Entry.decode_eq_ok hsize, Entry.read_of_holds (holds_toByteArray _)]

/-- A table with every block free is rewritten as it was. A block of zeros is no longer one if a directory
is read from it and written again, nor if a header is. -/
theorem rewriting_blank :
    (∃ e, Entry.decode (fill Entry.width 7) = .ok e ∧
      e.encode.toByteArray = fill Entry.width 7) ∧
    (∃ b a sum, b = ((Allocation.blank 0 64).encode blockSize).toByteArray ∧ b.size = blockSize ∧
      Allocation.decode b = .ok a ∧ a.write blockSize = .ok (sum, b)) ∧
    ((fill blockSize 0).size = blockSize ∧
      (∃ d sum out, Directory.decode (fill blockSize 0) = .ok d ∧
        d.write blockSize = .ok (sum, out) ∧ out ≠ fill blockSize 0) ∧
      ∃ h sum out, Header.decode (fill blockSize 0) = .ok h ∧
        h.write blockSize = .ok (sum, out) ∧ out ≠ fill blockSize 0) := by
  obtain ⟨hentries, -, hblocks⟩ := rewriting
  refine ⟨hentries _ (size_fill _ _), ?_, ?_⟩
  · have hsize : ((Allocation.blank 0 64).encode blockSize).toByteArray.size = blockSize := by
      rw [← length_all, all_toByteArray, Allocation.length_encode _ (Nat.le_refl _)]
    obtain ⟨⟨a, sum, out, c, hdecode, hwrite, hcheck, hiff⟩, -⟩ := hblocks _ hsize
    have hintact := Allocation.intact_of_holds (holds_toByteArray _) (Nat.le_of_eq hsize.symm)
    rw [hiff.2 ⟨(Seal.valid_iff_of_verify hcheck).2 hintact, trivial⟩] at hwrite
    exact ⟨_, a, sum, rfl, hsize, hdecode, hwrite⟩
  · have hsize := size_fill blockSize 0
    have hzeros (pos : Nat) : (fill blockSize 0).byte pos ≠ 0xFF := by
      rw [byte_fill_zero]
      decide
    generalize fill blockSize 0 = b at hsize hzeros ⊢
    obtain ⟨-, ⟨d, sum, out, _, hdecode, hwrite, -, hiff⟩,
      h, sum', out', _, hdecode', hwrite', -, hiff'⟩ := hblocks b hsize
    refine ⟨hsize, ⟨d, sum, out, hdecode, hwrite, fun e ↦ ?_⟩,
      h, sum', out', hdecode', hwrite', fun e ↦ ?_⟩
    · exact hzeros 0x1FC0 ((hiff.1 e).2 _ (Nat.le_refl _) (by decide))
    · exact hzeros 0x26 ((hiff'.1 e).2.2.1 _ (Nat.le_refl _) (by decide))

end MemoryCard
