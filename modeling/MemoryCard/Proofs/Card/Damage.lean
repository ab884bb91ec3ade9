import MemoryCard.Proofs.Card.Written

/-! # Damage to the system blocks

One other word in the copy of a table that is in use makes that copy invalid, and the card goes back
to the other copy, whichever word it is. One other word of the header shows as well. What stands behind
the header in its block makes no difference.
-/

namespace MemoryCard

open Bytes

/-! ## One other word -/

theorem Bytes.DifferAt.extract {b b' : Bytes} {start n pos : Nat}
    (h : b.DifferAt b' (start + pos)) (hpos : pos + 2 ≤ n) :
    DifferAt (b.extract start (start + n)) (b'.extract start (start + n)) pos where
  size := by rw [ByteArray.size_extract, ByteArray.size_extract, h.size]
  word := by
    rw [(agree_extract b' (by omega)).u16_eq, (agree_extract b (by omega)).u16_eq]
    exact h.word
  others i hi := by
    by_cases hin : start + i < start + n
    · rw [byte_extract b' hin, byte_extract b hin, h.others _ (by omega)]
    · rw [byte_of_size_le (by rw [ByteArray.size_extract]; omega),
        byte_of_size_le (by rw [ByteArray.size_extract]; omega)]

namespace Image

variable {image : Image} {pos : Nat} {w : UInt16}

/-- The image with the word `w` at `pos`. -/
def putWord (image : Image) (pos : Nat) (w : UInt16) : Image :=
  { image with bytes := image.bytes.overwrite pos (bytes16 w).toByteArray }

@[simp] theorem size_putWord (image : Image) (pos : Nat) (w : UInt16) :
    (image.putWord pos w).size = image.size := size_overwrite _ _ _

@[simp] theorem blockCount_putWord (image : Image) (pos : Nat) (w : UInt16) :
    (image.putWord pos w).blockCount = image.blockCount := by
  rw [blockCount, size_putWord, blockCount]

theorem differAt_putWord (hfits : pos + 2 ≤ image.size) (hne : w ≠ image.bytes.u16 pos) :
    image.bytes.DifferAt (image.putWord pos w).bytes pos := by
  have hbyte := byte_overwrite image.bytes (bytes16 w).toByteArray pos
  have hsize : (bytes16 w).toByteArray.size = 2 := by rw [List.size_toByteArray, length_bytes16]
  rw [hsize] at hbyte
  have hholds : (image.putWord pos w).bytes.Holds pos (bytes16 w) := by
    refine (holds_toByteArray _).of_agree fun i hi ↦ ?_
    rw [length_bytes16] at hi
    rw [putWord, hbyte _ hfits, if_pos (by omega), Nat.zero_add, Nat.add_sub_cancel_left]
  exact {
    size := size_putWord _ _ _
    word := by rwa [hholds.u16_eq]
    others := fun i hi ↦ by rw [putWord, hbyte _ hfits, if_neg (by omega)] }

/-- What is in one block is in front of any other block or behind it. -/
theorem outside_block {m n i : Nat} (hne : m ≠ n) (hi : m * blockSize ≤ i)
    (hi' : i < m * blockSize + blockSize) :
    i < n * blockSize ∨ n * blockSize + blockSize ≤ i := by
  rw [← Nat.succ_mul] at hi' ⊢
  rcases Nat.lt_or_gt_of_ne hne with hlt | hgt
  · exact .inl (Nat.lt_of_lt_of_le hi' (Nat.mul_le_mul_right _ hlt))
  · exact .inr (Nat.le_trans (Nat.mul_le_mul_right _ hgt) hi)

end Image

/-! ## Going back to the other copy -/

/-- The copy of `t` that was in use has become invalid, and `t'` uses the other one instead. -/
structure Copies.FallsBack {α : Type} (t t' : Copies α) : Prop where
  inUse : t'.inUse = t.inUse.other
  damaged : (t'.copy t.inUse).valid = false
  kept : t'.copy t.inUse.other = t.copy t.inUse.other
  found : t'.bothInvalid = false

theorem Copies.IsChoice.fallsBack {α : Type} {t t' : Copies α} {counter : Copy → UInt16}
    (h : t'.IsChoice (fun c ↦ (t'.copy c).valid = true) counter)
    (hdamaged : ¬ (t'.copy t.inUse).valid = true)
    (hkept : t'.copy t.inUse.other = t.copy t.inUse.other)
    (hvalid : (t.copy t.inUse.other).valid = true) : t.FallsBack t' where
  inUse := by
    -- the other word may be the counter, so the preferred copy can be either of the two
    have hother : (t'.copy t'.inUse).valid = true := h.inUse_valid ⟨t.inUse.other, by rwa [hkept]⟩
    refine (Copy.eq_of_ne_other fun e ↦ ?_).symm
    rw [Copy.other_other] at e
    exact hdamaged (e ▸ hother)
  damaged := Bool.eq_false_iff.2 hdamaged
  kept := hkept
  found := Bool.eq_false_iff.2 fun hboth ↦
    h.bothInvalid_iff.1 hboth t.inUse.other (by rwa [hkept])

/-- Each copy stands in a block of its own, and a seal guards all words of the block. -/
structure Guarded {α : Type} (ofBlock : Bytes → Checked α) (home : Copy → Nat) (s : Seal)
    (words : Nat) : Prop where
  home_ne : ∀ c, home c ≠ home c.other
  intact : ∀ {block}, (ofBlock block).valid = true → s.Intact block
  fits : s.Fits words blockSize
  guards : ∀ k < 0x1000, s.Guards words (2 * k)

namespace Guarded

variable {α : Type} {ofBlock : Bytes → Checked α} {home : Copy → Nat} {s : Seal} {words k : Nat}
  {number : α → UInt16} {standIn : α} {image : Image} {w : UInt16}

/-- A valid copy was read from its block. -/
theorem block_eq_ok {c : Copy}
    (hvalid : ((Copies.ofBlocks number standIn ofBlock home image).copy c).valid = true) :
    ∃ data, image.block (home c) = .ok data ∧
      (Copies.ofBlocks number standIn ofBlock home image).copy c = ofBlock data := by
  rw [Copies.ofBlocks, Copies.copy_ofEach] at hvalid ⊢
  cases hblock : image.block (home c) with
  | error failure =>
      rw [hblock] at hvalid
      cases hvalid
  | ok data => exact ⟨data, rfl, rfl⟩

theorem not_valid (h : Guarded ofBlock home s words) {data data' : Bytes}
    (hvalid : (ofBlock data).valid = true) (hsize : data.size = blockSize)
    (hdiffer : data.DifferAt data' (2 * k)) (hk : k < 0x1000) : ¬ (ofBlock data').valid = true :=
  fun hvalid' ↦ (h.intact hvalid).not_intact (hsize ▸ h.fits) hdiffer (h.guards k hk)
    (h.intact hvalid')

/-- Whichever word of the copy in use is another one, the other copy is used instead. -/
theorem fallsBack (h : Guarded ofBlock home s words) (hk : k < 0x1000)
    (hvalid : ∀ c, ((Copies.ofBlocks number standIn ofBlock home image).copy c).valid = true) :
    let t := Copies.ofBlocks number standIn ofBlock home image
    let pos := home t.inUse * blockSize + 2 * k
    w ≠ image.bytes.u16 pos →
      t.FallsBack (Copies.ofBlocks number standIn ofBlock home (image.putWord pos w)) := by
  intro t pos hne
  have hinside : 2 * k + 2 ≤ blockSize := by
    show 2 * k + 2 ≤ 0x2000
    omega
  have hvalidInUse : (t.copy t.inUse).valid = true := hvalid t.inUse
  obtain ⟨data, hblock, hcopy⟩ := block_eq_ok hvalidInUse
  have hsize := Image.size_block hblock
  obtain ⟨hindex, rfl⟩ := Image.block_eq_ok.1 hblock
  have hfits : home t.inUse * blockSize + blockSize ≤ image.size := Image.block_fits hindex
  have hpos : pos + 2 ≤ home t.inUse * blockSize + blockSize := by
    rw [Nat.add_assoc]
    exact Nat.add_le_add_left hinside _
  have hdiffer : image.bytes.DifferAt (image.putWord pos w).bytes pos :=
    Image.differAt_putWord (Nat.le_trans hpos hfits) hne
  have hblock' : (image.putWord pos w).block (home t.inUse) =
      .ok ((image.putWord pos w).bytes.extract (home t.inUse * blockSize)
        (home t.inUse * blockSize + blockSize)) := by
    rw [Image.block_eq_ok, Image.blockCount_putWord]
    exact ⟨hindex, rfl⟩
  have hvalidOther : (t.copy t.inUse.other).valid = true := hvalid _
  refine Copies.IsChoice.fallsBack (t := t)
    (Copies.isChoice_ofBlocks number standIn ofBlock home _) ?_ ?_ hvalidOther
  · rw [hcopy] at hvalidInUse
    rw [Copies.ofBlocks, Copies.copy_ofEach, hblock']
    exact h.not_valid hvalidInUse hsize (hdiffer.extract hinside) hk
  · have hkept := Image.block_congr hdiffer.size fun i hi hi' ↦ hdiffer.others i <|
      (Image.outside_block (h.home_ne t.inUse).symm hi hi').imp
        (fun hbefore ↦ Nat.lt_of_lt_of_le hbefore (Nat.le_add_right _ _)) (Nat.le_trans hpos)
    show Copies.copy (.ofBlocks number standIn ofBlock home _) _ = Copies.copy (.ofBlocks ..) _
    rw [Copies.ofBlocks, Copies.copy_ofEach, hkept, Copies.ofBlocks, Copies.copy_ofEach]

end Guarded

theorem Directory.fits : sumSeal.Fits 4094 blockSize :=
  ⟨by decide, by decide, by decide, by decide⟩

theorem Directory.guarded : Guarded ofBlock home sumSeal 4094 where
  home_ne c e := c.ne_other (Fin.ext (Nat.add_left_cancel e))
  intact := valid_ofBlock.1
  fits := fits
  guards _ hk := fits.guards_front (by decide) (by decide) hk

theorem Allocation.guarded (size : UInt16) : Guarded (ofBlock size) home sumSeal 4094 where
  home_ne c e := c.ne_other (Fin.ext (Nat.add_left_cancel e))
  intact h := (valid_ofBlock.1 h).1
  fits := ⟨by decide, by decide, by decide, by decide⟩
  guards _ hk := Seal.guards_behind (by decide) (by decide) hk

/-! ## The header block -/

namespace Header

variable {b b' : Bytes}

theorem fits : sumSeal.Fits 254 blockSize := ⟨by decide, by decide, by decide, by decide⟩

/-- A header is read from its own bytes. -/
theorem read_congr (h : Agree width b 0 b' 0) : read b = read b' := by
  have part (k m : Nat) (hk : k + m ≤ width) : Agree m b k b' k := by
    have hdrop := h.drop hk
    rwa [Nat.zero_add] at hdrop
  unfold read
  rw [(part 0x00 12 (by decide)).field_eq, (part 0x0C 8 (by decide)).u64_eq,
    (part 0x14 4 (by decide)).u32_eq, (part 0x18 4 (by decide)).u32_eq,
    (part 0x20 2 (by decide)).u16_eq, (part 0x22 2 (by decide)).u16_eq,
    (part 0x24 2 (by decide)).u16_eq, (part 0x1FC 4 (by decide)).u32_eq]

theorem compute_congr (hsize : b.size = b'.size) (h : Agree width b 0 b' 0) :
    sumSeal.compute b = sumSeal.compute b' := by
  have hregion : sumSeal.region b = sumSeal.region b' := slice_congr hsize fun i _ hi ↦ by
    have hbyte := h i (Nat.lt_trans hi (by decide))
    rwa [Nat.zero_add] at hbyte
  rw [Seal.compute, hregion, Seal.compute]

end Header

namespace Card

variable {image : Image} {k : Nat} {w : UInt16}

theorem valid_headerSum_opened : (opened image).headerSum.valid = true ↔
    Header.sumSeal.Intact (image.bytes.extract 0 blockSize) := SumCheck.valid_iff

theorem not_valid_headerSum_putWord (hvalid : (opened image).headerSum.valid = true)
    (hsize : blockSize ≤ image.size) (hk : k < 0x100) (hne : w ≠ image.bytes.u16 (2 * k)) :
    ¬ (opened (image.putWord (2 * k) w)).headerSum.valid = true := by
  have hinside : 2 * k + 2 ≤ blockSize := by
    show 2 * k + 2 ≤ 0x2000
    omega
  have hdiffer : image.bytes.DifferAt (image.putWord (2 * k) w).bytes (0 + 2 * k) := by
    rw [Nat.zero_add]
    exact Image.differAt_putWord (Nat.le_trans hinside hsize) hne
  have hextract := hdiffer.extract hinside
  rw [Nat.zero_add] at hextract
  have hblock : (image.bytes.extract 0 blockSize).size = blockSize := by
    rw [ByteArray.size_extract, Nat.sub_zero]
    exact Nat.min_eq_left hsize
  have hfits : Header.sumSeal.Fits 254 (image.bytes.extract 0 blockSize).size := by
    rw [hblock]
    exact Header.fits
  rw [valid_headerSum_opened] at hvalid ⊢
  exact hvalid.not_intact hfits hextract
    (Header.fits.guards_front (by decide) (by decide) hk)

/-- What stands behind the header in its block makes no difference. -/
theorem opened_congr {bytes : Bytes} (hsize : bytes.size = image.size)
    (hbytes : ∀ i, i < Header.width ∨ blockSize ≤ i → bytes.byte i = image.bytes.byte i) :
    opened { image with bytes } = { opened image with image := { image with bytes } } := by
  have hlength : Image.size { image with bytes } = image.size := hsize
  have hcount : Image.blockCount { image with bytes } = image.blockCount := by
    rw [Image.blockCount, hlength, Image.blockCount]
  have hagree : Agree Header.width (bytes.extract 0 blockSize) 0
      (image.bytes.extract 0 blockSize) 0 := fun i hi ↦ by
    have hinside : 0 + (0 + i) < blockSize := by
      rw [Nat.zero_add, Nat.zero_add]
      exact Nat.lt_trans hi (by decide)
    rw [byte_extract bytes hinside, byte_extract image.bytes hinside, Nat.zero_add, Nat.zero_add]
    exact hbytes i (.inl hi)
  have hextract : (bytes.extract 0 blockSize).size = (image.bytes.extract 0 blockSize).size := by
    rw [ByteArray.size_extract, ByteArray.size_extract, hsize, Image.size]
  have htables (size : UInt16) : Tables.load { image with bytes } size = Tables.load image size :=
    Tables.load_congr size fun k hk ↦ Image.block_congr hlength fun i hi _ ↦
      hbytes i (.inr (Nat.le_trans (Nat.le_mul_of_pos_left _ hk) hi))
  have hstored : Bytes.u32 (bytes.extract 0 blockSize) 0x1FC =
      Bytes.u32 (image.bytes.extract 0 blockSize) 0x1FC :=
    congrArg Header.storedSum (Header.read_congr hagree)
  simp only [opened, hlength, hcount, Header.read_congr hagree,
    Header.compute_congr hextract hagree, htables, hstored]

theorem size_opened_putWord (image : Image) (pos : Nat) (w : UInt16) :
    (opened (image.putWord pos w)).size = (opened image).size := by
  rw [opened, Image.blockCount_putWord, opened]

/-- Another word in the directory in use makes the card use the other copy. -/
theorem directories_fallBack (hk : k < 0x1000)
    (hvalid : ∀ d, ((opened image).tables.directories.copy d).valid = true) :
    let pos := Directory.home (opened image).tables.directories.inUse * blockSize + 2 * k
    w ≠ image.bytes.u16 pos → (opened image).tables.directories.FallsBack
      (opened (image.putWord pos w)).tables.directories := by
  have hload (image : Image) : (opened image).tables.directories =
      .ofBlocks Directory.counter (.empty 0) Directory.ofBlock Directory.home image :=
    Tables.directories_eq_ofBlocks image _
  simp only [hload] at hvalid ⊢
  exact Directory.guarded.fallsBack hk hvalid

/-- Another word in the allocation table in use makes the card use the other copy. -/
theorem allocations_fallBack (hk : k < 0x1000)
    (hvalid : ∀ a, ((opened image).tables.allocations.copy a).valid = true) :
    let pos := Allocation.home (opened image).tables.allocations.inUse * blockSize + 2 * k
    w ≠ image.bytes.u16 pos → (opened image).tables.allocations.FallsBack
      (opened (image.putWord pos w)).tables.allocations := by
  -- the number of free blocks is counted up to the size of the card, which is still the same
  have hload (pos : Nat) (w : UInt16) : (opened (image.putWord pos w)).tables.allocations =
      .ofBlocks Allocation.counter (.blank 0 (opened image).size)
        (Allocation.ofBlock (opened image).size) Allocation.home (image.putWord pos w) := by
    rw [← size_opened_putWord image pos w]
    exact Tables.allocations_eq_ofBlocks _ _
  have hload' : (opened image).tables.allocations =
      .ofBlocks Allocation.counter (.blank 0 (opened image).size)
        (Allocation.ofBlock (opened image).size) Allocation.home image :=
    Tables.allocations_eq_ofBlocks image _
  simp only [hload]
  rw [hload'] at hvalid ⊢
  exact (Allocation.guarded (opened image).size).fallsBack hk hvalid

/-- Damage to a single word is noticed. If both copies of a table are valid, another word anywhere in
the block of the one in use makes that copy invalid, and the other one, which stays as it was, is
used instead. If the header is valid, another word in it makes it invalid. All other bytes of its
block can change without any effect on the card. -/
theorem damage_noticed {c : Card} (h : ofImage image = .ok c) :
    ((∀ d, (c.tables.directories.copy d).valid = true) → ∀ k < 0x1000, ∀ w,
      let pos := Directory.home c.tables.directories.inUse * blockSize + 2 * k
      w ≠ image.bytes.u16 pos → ∃ c', ofImage (image.putWord pos w) = .ok c' ∧
        c.tables.directories.FallsBack c'.tables.directories ∧
        c'.conditions.has .badDirectories = false) ∧
    ((∀ a, (c.tables.allocations.copy a).valid = true) → ∀ k < 0x1000, ∀ w,
      let pos := Allocation.home c.tables.allocations.inUse * blockSize + 2 * k
      w ≠ image.bytes.u16 pos → ∃ c', ofImage (image.putWord pos w) = .ok c' ∧
        c.tables.allocations.FallsBack c'.tables.allocations ∧
        c'.conditions.has .badAllocation = false) ∧
    (c.headerSum.valid = true → ∀ k < 0x100, ∀ w, w ≠ image.bytes.u16 (2 * k) →
      ∃ c', ofImage (image.putWord (2 * k) w) = .ok c' ∧ c'.conditions.has .badHeader = true) ∧
    ∀ bytes : Bytes, bytes.size = image.size →
      (∀ i, i < Header.width ∨ blockSize ≤ i → bytes.byte i = image.bytes.byte i) →
      ofImage { image with bytes } = .ok { c with image := { image with bytes } } := by
  obtain ⟨hsize, hcount, rfl⟩ := ofImage_eq_ok.1 h
  have hopen (pos : Nat) (w : UInt16) :
      ofImage (image.putWord pos w) = .ok (opened (image.putWord pos w)) := by
    refine ofImage_eq_opened ?_ ?_
    · rwa [Image.size_putWord]
    · rwa [Image.blockCount_putWord]
  refine ⟨?_, ?_, ?_, ?_⟩
  · intro hvalid k hk w pos hne
    have hback := directories_fallBack hk hvalid hne
    exact ⟨_, hopen pos w, hback, by rw [has_conditions_opened, hback.found]⟩
  · intro hvalid k hk w pos hne
    have hback := allocations_fallBack hk hvalid hne
    exact ⟨_, hopen pos w, hback, by rw [has_conditions_opened, hback.found]⟩
  · intro hvalid k hk w hne
    have hblock : blockSize ≤ image.size := Nat.le_trans (by decide) hsize
    have hinvalid := not_valid_headerSum_putWord hvalid hblock hk hne
    exact ⟨_, hopen (2 * k) w, by rw [has_conditions_opened, Bool.eq_false_iff.2 hinvalid]; rfl⟩
  · intro bytes hbytes hsame
    have hlength : Image.size { image with bytes } = image.size := hbytes
    rw [← opened_congr hbytes hsame]
    exact ofImage_eq_opened (by rwa [hlength]) (by rwa [Image.blockCount, hlength])

/-- On a card of eight blocks with empty tables, the second copy of the directory is in use. With
another counter in it, even one that is further ahead, the card uses the first copy. -/
theorem damage_noticed_blank : ∃ sums image c c',
    Image.write ⟨.fill (8 * blockSize) 0, none⟩ (.blank (.read .empty) 8) = .ok (sums, image) ∧
    ofImage image = .ok c ∧ c.tables.directories.inUse = 1 ∧
    ofImage (image.putWord (2 * blockSize + 2 * 0xFFD) 5) = .ok c' ∧
    c'.tables.directories.inUse = 0 ∧ c'.conditions.has .badDirectories = false := by
  have hzeros : (⟨.fill (8 * blockSize) 0, none⟩ : Image).size = 8 * blockSize := by
    rw [Image.size, Bytes.size_fill]
  have hstores := Image.stores_setBlocks (s := .blank (.read .empty) 8)
    (by rw [hzeros]; decide)
  have hwrite := Image.write_eq_ok ⟨.fill (8 * blockSize) 0, none⟩ (.blank (.read .empty) 8)
  have hsize := (Image.size_setBlocks ⟨.fill (8 * blockSize) 0, none⟩ 0
    (System.blank (.read .empty) 8).blocks).trans hzeros
  generalize Image.setBlocks ⟨.fill (8 * blockSize) 0, none⟩ 0
    (System.blank (.read .empty) 8).blocks = image at hstores hwrite hsize
  have hblocks : image.blockCount = 8 := by
    rw [Image.blockCount, hsize]
    rfl
  have hopen : ofImage image = .ok (opened image) :=
    ofImage_eq_opened (by rw [hsize]; decide) (by rw [hblocks]; decide)
  have hshows := shows_opened hstores (by rw [hblocks]; decide)
  have hinUse : (opened image).tables.directories.inUse = 1 := hshows.directory_inUse
  have hcounter : image.bytes.u16 (2 * blockSize + 2 * 0xFFD) = 1 := by
    have hdirectory := hstores.directory 1
    rw [Directory.encode, Directory.body, holds_append, holds_append, holds_append,
      Directory.length_slotBytes] at hdirectory
    exact hdirectory.1.1.2.u16_eq
  have hother : 5 ≠ image.bytes.u16 (Directory.home 1 * blockSize + 2 * 0xFFD) := fun e ↦
    absurd (e.trans hcounter) (by decide)
  obtain ⟨c', hopen', hback, hfound⟩ := (damage_noticed hopen).1 hshows.directory_valid 0xFFD
    (by decide) 5 (by rwa [hinUse])
  refine ⟨_, image, _, c', hwrite, hopen, hinUse, ?_, ?_, hfound⟩
  · rw [hinUse] at hopen'
    exact hopen'
  · rw [hback.inUse, hinUse]
    rfl

end Card
end MemoryCard
