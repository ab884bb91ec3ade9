import MemoryCard.Proofs.Allocation
import MemoryCard.Proofs.Card.Selection

/-! # Which copies a card has in use when it is opened

The choice between the copies of a table depends on the bytes of their two blocks alone. It can be
told from the image which copies are valid, which is the newer one, and so which is in use. What
the card knows of its copies stays the same in whatever is done with it.
-/

namespace MemoryCard

/-! ## Validity in the image -/

/-- The sum of the `len` bytes from `first` on is stored at `pos`. -/
def DualSum.StoredAt (b : Bytes) (first len pos : Nat) : Prop :=
  b.u16 pos = (ofBytes (b.slice first len)).sum ∧
    b.u16 (pos + 2) = (ofBytes (b.slice first len)).inverse

/-- Whether a region of a part of a buffer is intact can be told from the whole buffer. -/
theorem Seal.intact_extract {s : Seal} {n : Nat} (b : Bytes) (start first len stored : Nat)
    (hstart : s.start.toNat = first) (hstop : s.stop.toNat = first + len)
    (hstored : s.storedAt.toNat = stored) (hregion : first + len ≤ n) (hsum : stored + 4 ≤ n) :
    s.Intact (b.extract start (start + n)) ↔
      DualSum.StoredAt b (start + first) len (start + stored) := by
  rw [intact_iff, region, hstart, hstop, hstored, Nat.add_sub_cancel_left,
    Bytes.slice_extract b (by omega), (Bytes.agree_extract b (by omega)).u16_eq,
    (Bytes.agree_extract b (by omega)).u16_eq]
  rfl

/-- The sum that is stored with a copy of the directory is that of its block. -/
def Directory.SumAgrees (image : Image) (d : Copy) : Prop :=
  let start := home d * blockSize
  DualSum.StoredAt image.bytes start 0x1FFC (start + 0x1FFC)

/-- The counter of a copy of the directory. -/
def Directory.counterIn (image : Image) (d : Copy) : UInt16 :=
  image.bytes.u16 (home d * blockSize + 0x1FFA)

/-- The sum that is stored with a copy of the allocation table is that of its block. -/
def Allocation.SumAgrees (image : Image) (a : Copy) : Prop :=
  let start := home a * blockSize
  DualSum.StoredAt image.bytes (start + 4) 0x1FFC start

/-- A copy of the allocation table says how many of its links are zero, up to the end of a card of
`size` blocks. -/
def Allocation.CountAgrees (image : Image) (size : Nat) (a : Copy) : Prop :=
  let start := home a * blockSize
  (List.range' 5 (min size 0x1000 - 5)).countP
      (fun block ↦ image.bytes.u16 (start + 0x0A + (block - 5) * 2) == 0) =
    (image.bytes.u16 (start + 0x06)).toNat

/-- The counter of a copy of the allocation table. -/
def Allocation.counterIn (image : Image) (a : Copy) : UInt16 :=
  image.bytes.u16 (home a * blockSize + 0x04)

theorem Directory.valid_ofBlock_extract (image : Image) (d : Copy) :
    let start := home d * blockSize
    (ofBlock (image.bytes.extract start (start + blockSize))).valid = true ↔ SumAgrees image d := by
  intro start
  have hsum : sumSeal.Intact (image.bytes.extract start (start + blockSize)) ↔
      DualSum.StoredAt image.bytes (start + 0) 0x1FFC (start + 0x1FFC) :=
    Seal.intact_extract _ _ _ _ _ (by decide) (by decide) (by decide) (by decide) (by decide)
  rw [valid_ofBlock, hsum, Nat.add_zero]
  rfl

theorem Directory.counter_ofBlock_extract (image : Image) (d : Copy) :
    let start := home d * blockSize
    (ofBlock (image.bytes.extract start (start + blockSize))).table.counter = counterIn image d :=
  (Bytes.agree_extract _ (by show _ + 0x1FFA + 2 ≤ _ + 0x2000; omega)).u16_eq

theorem Allocation.countFree_extract (b : Bytes) (start : Nat) (size : UInt16) :
    ((read (b.extract start (start + blockSize))).countFree size).toNat =
      (List.range' 5 (min size.toNat 0x1000 - 5)).countP fun n ↦
        b.u16 (start + 0x0A + (n - 5) * 2) == 0 := by
  rw [toNat_countFree_read]
  refine List.countP_congr fun n hn ↦ ?_
  rw [List.mem_range'_1] at hn
  rw [(Bytes.agree_extract b (by show _ ≤ start + 0x2000; omega)).u16_eq, Nat.add_assoc]

theorem Allocation.valid_ofBlock_extract (image : Image) (size : UInt16) (a : Copy) :
    let start := home a * blockSize
    (ofBlock size (image.bytes.extract start (start + blockSize))).valid = true ↔
      SumAgrees image a ∧ CountAgrees image size.toNat a := by
  intro start
  have hsum : sumSeal.Intact (image.bytes.extract start (start + blockSize)) ↔
      DualSum.StoredAt image.bytes (start + 4) 0x1FFC (start + 0) :=
    Seal.intact_extract _ _ _ _ _ (by decide) (by decide) (by decide) (by decide) (by decide)
  have hfree : (read (image.bytes.extract start (start + blockSize))).free =
      image.bytes.u16 (start + 0x06) :=
    (Bytes.agree_extract _ (by show _ + 6 + 2 ≤ _ + 0x2000; omega)).u16_eq
  rw [valid_ofBlock, isConsistent, beq_iff_eq, ← UInt16.toNat_inj, countFree_extract, hfree, hsum,
    Nat.add_zero start, SumAgrees, CountAgrees]

theorem Allocation.counter_ofBlock_extract (image : Image) (size : UInt16) (a : Copy) :
    let start := home a * blockSize
    (ofBlock size (image.bytes.extract start (start + blockSize))).table.counter =
      counterIn image a :=
  (Bytes.agree_extract _ (by show _ + 4 + 2 ≤ _ + 0x2000; omega)).u16_eq

/-- Where all bytes are zero, a sum is stored only if so many words have zero as the sum of their
complements. -/
theorem DualSum.StoredAt.settled_eq_zero {b : Bytes} {first len pos : Nat}
    (h : StoredAt b first len pos) (hzero : ∀ i, b.byte i = 0) (hinside : first + len ≤ b.size)
    (heven : len % 2 = 0) : settled (0xFFFF * (len / 2)) = 0 := by
  have hword (i : Nat) : b.u16 i = 0 := by
    rw [Bytes.u16_eq, hzero, hzero]
    rfl
  have hlen : len = 2 * (len / 2) := by omega
  have hwords : words (b.slice first len) = List.replicate (len / 2) 0 := by
    rw [hlen, words_slice (by omega)]
    simp [hword, ← hlen]
  have hinverse := (toNat_ofBytes (b.slice first len)).2
  rw [← h.2, hword, hwords] at hinverse
  simpa [total] using hinverse.symm

theorem Directory.not_sumAgrees_zeros {image : Image} {d : Copy}
    (hzero : ∀ i, image.bytes.byte i = 0) (hsize : 5 * blockSize ≤ image.size) :
    ¬ SumAgrees image d := by
  have hd := d.isLt
  have hinside : home d * blockSize + 0x1FFC ≤ image.bytes.size := by
    refine Nat.le_trans ?_ hsize
    show (1 + d.val) * 0x2000 + 0x1FFC ≤ 5 * 0x2000
    omega
  intro h
  exact absurd (h.settled_eq_zero hzero hinside (by decide)) (by decide)

/-! ## The choice -/

/-- The choice between the copies of the directory can be told from their blocks. -/
theorem Directory.isChoice_load {image : Image} (h : 5 ≤ image.blockCount) (size : UInt16) :
    (Tables.load image size).directories.IsChoice (SumAgrees image) (counterIn image) := by
  rw [Tables.directories_eq_ofBlocks]
  exact Copies.isChoice_ofBlocks_of_lt (fun d ↦ Nat.lt_of_lt_of_le (home_lt d) h)
    (valid_ofBlock_extract image) (counter_ofBlock_extract image)

/-- The choice between the copies of the allocation table can be told from their blocks. -/
theorem Allocation.isChoice_load {image : Image} (h : 5 ≤ image.blockCount) (size : UInt16) :
    (Tables.load image size).allocations.IsChoice
      (fun a ↦ SumAgrees image a ∧ CountAgrees image size.toNat a) (counterIn image) := by
  rw [Tables.allocations_eq_ofBlocks]
  exact Copies.isChoice_ofBlocks_of_lt (fun a ↦ Nat.lt_of_lt_of_le (home_lt a) h)
    (valid_ofBlock_extract image size) (counter_ofBlock_extract image size)

namespace Card

/-! ## Opened cards -/

variable {image : Image}

/-- A condition of an opened card is one of its size, of the header or of a table without a valid
copy. -/
theorem has_conditions_opened (image : Image) (condition : Condition) :
    (opened image).conditions.has condition = match condition with
      | .badHeader => !(opened image).headerSum.valid
      | .badDirectories => (opened image).tables.directories.bothInvalid
      | .badAllocation => (opened image).tables.allocations.bothInvalid
      | size => (Conditions.ofLength image.size).has size := by
  rw [conditions, Conditions.has_union, Conditions.has_union]
  cases condition <;>
    simp [opened, Conditions.ofLength, Conditions.has, Tables.conditions]

theorem size_opened (hcount : image.size / blockSize < 0x100000000) :
    (opened image).size.toNat = min (image.size / blockSize) 0xFFFF := by
  have hsize : (opened image).size.toNat = min image.blockCount 0xFFFF % 0x10000 := rfl
  have hblocks : image.blockCount = image.size / blockSize := Nat.mod_eq_of_lt hcount
  rw [hsize, hblocks]
  exact Nat.mod_eq_of_lt (by omega)

/-- What a card knows of its copies stays the same in whatever is done with it. -/
theorem Follows.same_knowledge {c r : Card} (h : c.Follows r) :
    r.conditions = c.conditions ∧
      r.tables.directories.cardChoice? = c.tables.directories.cardChoice? ∧
      r.tables.allocations.cardChoice? = c.tables.allocations.cardChoice? ∧
      (∀ n, r.tables.directories.isValid n = c.tables.directories.isValid n) ∧
      ∀ n, r.tables.allocations.isValid n = c.tables.allocations.isValid n := by
  obtain ⟨-, d, a, e⟩ := h
  have hconditions : r.withoutLost.conditions = r.conditions := rfl
  have htables : r.tables = c.tables.use d a := congrArg Card.tables e
  rw [← hconditions, e, htables]
  exact ⟨rfl, rfl, rfl, fun _ ↦ rfl, fun _ ↦ rfl⟩

/-- An image with all system blocks opens as a card that has made its choice between the copies of
both tables. Their sums, the free blocks they record and their counters, as they stand in the image,
decide it. A table has a valid copy in use unless it has none, which is the case exactly if the card
shows its condition. All this stays so in every run. -/
theorem isChoice_run {image : Image} (hfive : 5 ≤ image.size / blockSize)
    (hcount : image.size / blockSize < 0x100000000) :
    ∃ c, ofImage image = .ok c ∧
      c.size.toNat = min (image.size / blockSize) 0xFFFF ∧
      c.tables.directories.IsChoice (Directory.SumAgrees image) (Directory.counterIn image) ∧
      c.tables.allocations.IsChoice
        (fun a ↦ Allocation.SumAgrees image a ∧ Allocation.CountAgrees image c.size.toNat a)
        (Allocation.counterIn image) ∧
      (c.conditions.has .badDirectories = true ↔ c.tables.directories.cardChoice? = none) ∧
      (c.conditions.has .badAllocation = true ↔ c.tables.allocations.cardChoice? = none) ∧
      ∀ os, let r := Operation.run c os
        r.conditions = c.conditions ∧
        r.tables.directories.cardChoice? = c.tables.directories.cardChoice? ∧
        r.tables.allocations.cardChoice? = c.tables.allocations.cardChoice? ∧
        (∀ n, r.tables.directories.isValid n = c.tables.directories.isValid n) ∧
        ∀ n, r.tables.allocations.isValid n = c.tables.allocations.isValid n := by
  have hblocks : 5 ≤ image.blockCount := by rwa [Image.blockCount, Nat.mod_eq_of_lt hcount]
  have hbytes : systemBlocks.toNat * blockSize ≤ image.size :=
    Nat.le_trans (Nat.mul_le_mul_right _ hfive) (Nat.div_mul_le_self _ _)
  have hdirectories := Directory.isChoice_load hblocks (opened image).size
  have hallocations := Allocation.isChoice_load hblocks (opened image).size
  refine ⟨opened image, ofImage_eq_opened hbytes (by omega), size_opened hcount, hdirectories,
    hallocations, ?_, ?_, fun os ↦ (follows_run_opened image os).same_knowledge⟩
  · rw [has_conditions_opened]
    exact hdirectories.bothInvalid_iff.trans hdirectories.cardChoice_eq_none.symm
  · rw [has_conditions_opened]
    exact hallocations.bothInvalid_iff.trans hallocations.cardChoice_eq_none.symm

/-- On a card of eight blocks of zeros no copy of a table is valid. The preferred ones stand in, and
the card still says that it has no choice after the second one of the directory was selected. -/
theorem isChoice_run_zeros : ∃ c, ofImage ⟨.fill (8 * blockSize) 0, none⟩ = .ok c ∧
    c.tables.directories.inUse = c.tables.directories.preferred ∧
    c.conditions.has .badDirectories = true ∧
    (Operation.run c [.selectDirectory 1]).tables.directories.cardChoice? = none := by
  have hsize : (⟨.fill (8 * blockSize) 0, none⟩ : Image).size = 8 * blockSize := by
    rw [Image.size, Bytes.size_fill]
  have hzero : ∀ i, (⟨.fill (8 * blockSize) 0, none⟩ : Image).bytes.byte i = 0 := by
    simp only [Bytes.byte_fill_zero, implies_true]
  obtain ⟨c, hopen, -, hdirectories, -, hbad, -, hrun⟩ :=
    isChoice_run (by rw [hsize]; decide) (by rw [hsize]; decide)
  have hnone (d : Copy) := Directory.not_sumAgrees_zeros (d := d) hzero (by rw [hsize]; decide)
  have hchoice := hdirectories.cardChoice_eq_none.2 hnone
  exact ⟨c, hopen, hdirectories.inUse_standIn hnone, hbad.2 hchoice,
    (hrun [.selectDirectory 1]).2.1.trans hchoice⟩

end Card
end MemoryCard
