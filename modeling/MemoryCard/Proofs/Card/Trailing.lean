import MemoryCard.Proofs.Card.Choice
import MemoryCard.Proofs.Card.Search
import MemoryCard.Proofs.Geometry

/-! # Bytes behind the last whole block

Bytes that do not make a whole block belong to no block, and nothing that is done with a card looks at
its image but by blocks. So a card with such bytes behind its blocks is the card without them, except
that its length tells that they are there. The two are compared step by step: no operation looks at
the image or at what its length tells, and every operation keeps both.
-/

namespace MemoryCard

/-! ## Longer images -/

theorem Bytes.extract_append_left {b : Bytes} (tail : Bytes) {start stop : Nat}
    (h : stop ≤ b.size) : (b ++ tail).extract start stop = b.extract start stop := by
  have hnone : tail.extract (start - b.size) (stop - b.size) = .empty :=
    ByteArray.extract_eq_empty_iff.2 (by omega)
  rw [ByteArray.extract_append, hnone, ByteArray.append_empty]

namespace Image

variable {image : Image} {tail : Bytes}

/-- The image with more bytes behind it. -/
def withTail (image : Image) (tail : Bytes) : Image := { image with bytes := image.bytes ++ tail }

theorem size_withTail : (image.withTail tail).size = image.size + tail.size :=
  ByteArray.size_append

/-- The image is a row of whole blocks, and the bytes behind it are a part of one. -/
structure Trails (image : Image) (tail : Bytes) : Prop where
  whole : image.size % blockSize = 0
  nonempty : 0 < tail.size
  part : tail.size < blockSize

theorem Trails.blockCount_eq (h : image.Trails tail) :
    (image.withTail tail).blockCount = image.blockCount := by
  obtain ⟨blocks, hblocks⟩ := Nat.dvd_of_mod_eq_zero h.whole
  rw [blockCount, blockCount, size_withTail, hblocks, Nat.mul_add_div (by decide),
    Nat.div_eq_of_lt h.part, Nat.mul_div_cancel_left _ (by decide), Nat.add_zero]

/-- Every block is what it was, and no more of them are there. -/
theorem Trails.block_eq (h : image.Trails tail) (index : Nat) :
    (image.withTail tail).block index = image.block index := by
  unfold block
  rw [h.blockCount_eq]
  split
  · rename_i hindex
    exact congrArg Except.ok (Bytes.extract_append_left tail (block_fits hindex))
  · rfl

end Image

namespace Card

/-! ## Operations on another image -/

/-- The card on another image, with other conditions of its size. -/
def onImage (c : Card) (image : Image) (conditions : Conditions) : Card :=
  { c with image, sizeConditions := conditions }

end Card

/-- The outcome on another image. -/
def Outcome.onImage {α : Type} (o : Outcome α) (image : Image) (conditions : Conditions) :
    Outcome α :=
  { o with card := o.card.onImage image conditions }

namespace Card

section OnImage

variable (c : Card) (image : Image) (conditions : Conditions)

theorem append_onImage (files : List SaveFile) : (c.onImage image conditions).append files =
    ((c.append files).1.onImage image conditions, (c.append files).2) := by
  unfold append
  split <;> rfl

theorem dropFrom_onImage (first : Nat) : (c.onImage image conditions).dropFrom first =
    ((c.dropFrom first).1.onImage image conditions, (c.dropFrom first).2) := by
  by_cases h : c.files.length ≤ first
  · have h' : (c.onImage image conditions).files.length ≤ first := h
    rw [dropFrom, dropFrom, if_pos h, if_pos h']
  · have h' : ¬ (c.onImage image conditions).files.length ≤ first := h
    rw [dropFrom, dropFrom, if_neg h, if_neg h']
    rfl

theorem tables_onImage : (c.onImage image conditions).tables = c.tables := rfl

theorem switch_onImage (select : Tables → Except Failure (Tables × Bool)) :
    (c.onImage image conditions).switch select = (c.switch select).onImage image conditions := by
  unfold switch
  rw [dropFrom_onImage]
  generalize c.dropFrom 0 = emptied
  simp only [tables_onImage]
  cases select emptied.1.tables with
  | error failure => rfl
  | ok t =>
      let listing := Listing.ofTables t.1 emptied.1.size emptied.1.charset
      let relisted : Card := { emptied.1 with
        tables := t.1, usage := listing.usage, regularCount := listing.files.length }
      let finish (appended : Card × List Event) : Outcome Unit := ⟨.ok (), appended.1,
        emptied.2 ++ appended.2 ++ [.blockCount appended.1.dataSize appended.1.free]⟩
      exact congrArg finish (relisted.append_onImage image conditions listing.files)

theorem selectDirectory_onImage (n : UInt8) : (c.onImage image conditions).selectDirectory n =
    (c.selectDirectory n).onImage image conditions := by
  unfold selectDirectory
  rw [tables_onImage, switch_onImage]
  split
  · rfl
  · split <;> rfl

theorem selectAllocation_onImage (n : UInt8) : (c.onImage image conditions).selectAllocation n =
    (c.selectAllocation n).onImage image conditions := by
  unfold selectAllocation
  rw [tables_onImage, switch_onImage]
  split
  · rfl
  · split <;> rfl

theorem addSalvaged_onImage (found : Except Failure SaveFile) :
    (c.onImage image conditions).addSalvaged found =
      (c.addSalvaged found).onImage image conditions := by
  cases found with
  | error failure => rfl
  | ok f => rfl

theorem salvageAll_onImage (reserved : BlockSet) (sightings : List Sighting) :
    (c.onImage image conditions).salvageAll reserved sightings =
      c.salvageAll reserved sightings := by
  induction sightings generalizing reserved with
  | nil => rfl
  | cons s rest ih =>
      have hsame : (c.onImage image conditions).salvageSighting reserved s =
        c.salvageSighting reserved s := rfl
      rw [salvageAll, salvageAll, hsame, ih]
      simp only [ih]

/-- No operation looks at the image or at what its length tells, and each keeps both. -/
theorem apply_onImage (o : Operation) : o.apply (c.onImage image conditions) =
    (o.apply c).onImage image conditions := by
  cases o with
  | selectDirectory n =>
      exact congrArg (Outcome.indices fun _ ↦ []) (c.selectDirectory_onImage image conditions n)
  | selectAllocation n =>
      exact congrArg (Outcome.indices fun _ ↦ []) (c.selectAllocation_onImage image conditions n)
  | addLost e =>
      exact congrArg (Outcome.indices fun i ↦ [i]) (c.addSalvaged_onImage image conditions _)
  | addLostChain e chain =>
      exact congrArg (Outcome.indices fun i ↦ [i]) (c.addSalvaged_onImage image conditions _)
  | addSightings sightings =>
      rw [Operation.apply, Operation.apply, addSightings, salvageAll_onImage, append_onImage]
      rfl
  | removeLost =>
      rw [Operation.apply, Operation.apply, removeLost, dropFrom_onImage]
      rfl

end OnImage

/-! ## Cards that differ in their images only -/

variable {c c' : Card} {image : Image} {tail : Bytes}

/-- The cards are the same but for the bytes of their images and what the length of these tells, and
the images have the same blocks. -/
structure Twins (c c' : Card) : Prop where
  path : c'.image.path? = c.image.path?
  block : ∀ index, c'.image.block index = c.image.block index
  header : c'.header = c.header
  headerSum : c'.headerSum = c.headerSum
  sizeConditions : ∀ x, x.isSize = false → c'.sizeConditions.has x = c.sizeConditions.has x
  size : c'.size = c.size
  tables : c'.tables = c.tables
  files : c'.files = c.files
  regularCount : c'.regularCount = c.regularCount
  usage : c'.usage = c.usage

theorem twins_onImage {conditions : Conditions} (hpath : image.path? = c.image.path?)
    (hblock : ∀ index, image.block index = c.image.block index)
    (hconditions : ∀ x, x.isSize = false → conditions.has x = c.sizeConditions.has x) :
    c.Twins (c.onImage image conditions) :=
  ⟨hpath, hblock, rfl, rfl, hconditions, rfl, rfl, rfl, rfl, rfl⟩

namespace Twins

theorem eq_onImage (h : c.Twins c') : c' = c.onImage c'.image c'.sizeConditions := by
  obtain ⟨-, -, hheader, hsum, -, hsize, htables, hfiles, hcount, husage⟩ := h
  cases c'
  cases hheader
  cases hsum
  cases hsize
  cases htables
  cases hfiles
  cases hcount
  cases husage
  rfl

theorem conditions (h : c.Twins c') {x : Condition} (hx : x.isSize = false) :
    c'.conditions.has x = c.conditions.has x := by
  simp only [Card.conditions, Conditions.has_union, h.sizeConditions x hx, h.headerSum, h.tables]

/-! ### Operations -/

theorem apply_eq (h : c.Twins c') (o : Operation) :
    o.apply c' = (o.apply c).onImage c'.image c'.sizeConditions := by
  rw [← c.apply_onImage c'.image c'.sizeConditions o, ← h.eq_onImage]

theorem apply (h : c.Twins c') (o : Operation) : (o.apply c).card.Twins (o.apply c').card := by
  have hsame : o.apply c = (o.apply c).onImage c.image c.sizeConditions :=
    c.apply_onImage c.image c.sizeConditions o
  have himage : (o.apply c).card.image = c.image :=
    congrArg (fun outcome ↦ outcome.card.image) hsame
  have hconditions : (o.apply c).card.sizeConditions = c.sizeConditions :=
    congrArg (fun outcome ↦ outcome.card.sizeConditions) hsame
  rw [h.apply_eq o]
  exact twins_onImage (himage ▸ h.path) (himage ▸ h.block) (hconditions ▸ h.sizeConditions)

theorem run (h : c.Twins c') (os : List Operation) :
    (Operation.run c os).Twins (Operation.run c' os) := by
  induction os generalizing c c' with
  | nil => exact h
  | cons o rest ih => exact ih (h.apply o)

/-- The same operations succeed and fail on both cards, and observers are told the same. -/
theorem outcomes (h : c.Twins c') (os : List Operation) :
    (Operation.outcomes c' os).map (fun outcome ↦ (outcome.result, outcome.events)) =
      (Operation.outcomes c os).map fun outcome ↦ (outcome.result, outcome.events) := by
  induction os generalizing c c' with
  | nil => rfl
  | cons o rest ih =>
      rw [Operation.outcomes, Operation.outcomes, List.map_cons, List.map_cons, ih (h.apply o),
        h.apply_eq o]
      rfl

/-! ### Reading and searching -/

theorem scanDataBlock (h : c.Twins c') (alignment : UInt64) :
    c'.scanDataBlock alignment = c.scanDataBlock alignment := by
  funext b
  simp only [Card.scanDataBlock, h.block, h.size]

theorem scanBlockPool (h : c.Twins c') (alignment : UInt64) :
    c'.scanBlockPool alignment = c.scanBlockPool alignment := by
  unfold Card.scanBlockPool unclaimedBlocks
  rw [h.scanDataBlock, h.size, h.usage]

theorem scan (h : c.Twins c') (o : ScanOptions) : c'.scan o = c.scan o := by
  unfold Card.scan scanIdleDirectory
  rw [h.scanBlockPool, h.tables, h.size]

theorem readChain (h : c.Twins c') (chain : List UInt16) (skip len : Nat) :
    SaveFile.readChain c'.image chain skip len = SaveFile.readChain c.image chain skip len := by
  induction chain generalizing skip len with
  | nil => rfl
  | cons b rest ih => simp only [SaveFile.readChain, ih, h.block]

end Twins

/-! ## Opening with bytes behind the blocks -/

theorem opened_withTail (h : image.Trails tail) (hblock : blockSize ≤ image.size) :
    opened (image.withTail tail) =
      (opened image).onImage (image.withTail tail) (.ofLength (image.size + tail.size)) := by
  have hfront : (image.withTail tail).bytes.extract 0 blockSize =
      image.bytes.extract 0 blockSize := Bytes.extract_append_left tail hblock
  have htables (size : UInt16) : Tables.load (image.withTail tail) size = Tables.load image size :=
    Tables.load_congr size fun k _ ↦ h.block_eq k
  simp only [opened, onImage, h.blockCount_eq, hfront, htables, Image.size_withTail]

theorem twins_opened (h : image.Trails tail) (hblock : blockSize ≤ image.size) :
    (opened image).Twins (opened (image.withTail tail)) := by
  rw [opened_withTail h hblock]
  refine twins_onImage rfl h.block_eq fun x hx ↦ ?_
  cases x with
  | tooSmall => cases hx
  | tooBig => cases hx
  | notPowerOfTwo => cases hx
  | badHeader => rfl
  | badDirectories => rfl
  | badAllocation => rfl

theorem notPowerOfTwo_withTail (h : image.Trails tail) (hblock : blockSize ≤ image.size) :
    (opened (image.withTail tail)).conditions.has .notPowerOfTwo = true := by
  obtain ⟨blocks, hblocks⟩ := Nat.dvd_of_mod_eq_zero h.whole
  have hpos : 0 < blocks := Nat.pos_of_ne_zero fun e ↦ by
    rw [hblocks, e] at hblock
    exact absurd hblock (by decide)
  have hlength : isPowerOfTwo (image.withTail tail).size = false := by
    rw [Image.size_withTail, hblocks]
    exact not_isPowerOfTwo hpos h.nonempty h.part
  rw [has_conditions_opened]
  exact congrArg not hlength

theorem ofImage_withTail_eq_error (h : image.Trails tail)
    (hsize : systemBlocks.toNat * blockSize ≤ image.size) {failure : Failure}
    (hfailure : ofImage image = .error failure) :
    ofImage (image.withTail tail) = .error failure := by
  have hsize' : systemBlocks.toNat * blockSize ≤ (image.withTail tail).size := by
    rw [Image.size_withTail]
    exact Nat.le_trans hsize (Nat.le_add_right _ _)
  rcases Nat.eq_zero_or_pos image.blockCount with hzero | hcount
  · rw [ofImage_of_blockCount_eq_zero hsize hzero] at hfailure
    rw [ofImage_of_blockCount_eq_zero hsize' (h.blockCount_eq.trans hzero), hfailure]
  · rw [ofImage_eq_opened hsize hcount] at hfailure
    cases hfailure

/-- Nothing that is told by a card of its blocks is disturbed by the bytes behind them. -/
structure Undisturbed (c c' : Card) : Prop where
  twins : c.Twins c'
  conditions : ∀ x, x.isSize = false → c'.conditions.has x = c.conditions.has x
  notPowerOfTwo : c'.conditions.has .notPowerOfTwo = true
  blocks : ∀ f : SaveFile, f.blocks c'.image = f.blocks c.image
  readAt : ∀ (f : SaveFile) offset len, f.readAt c'.image offset len = f.readAt c.image offset len
  scan : ∀ o, c'.scan o = c.scan o

theorem undisturbed_run (h : image.Trails tail) (hblock : blockSize ≤ image.size)
    (os : List Operation) : (Operation.run (opened image) os).Undisturbed
      (Operation.run (opened (image.withTail tail)) os) := by
  have htwins := (twins_opened h hblock).run os
  have hknown := (follows_run_opened (image.withTail tail) os).same_knowledge
  refine ⟨htwins, fun _ ↦ htwins.conditions, ?_, fun f ↦ ?_, fun f offset len ↦ ?_, htwins.scan⟩
  · rw [hknown.1]
    exact notPowerOfTwo_withTail h hblock
  · simp only [SaveFile.blocks, htwins.block]
  · rw [SaveFile.readAt, SaveFile.readAt, htwins.readChain]

/-- An image that is a row of whole blocks opens in the same way with a part of a block behind it.
Whatever is done with both cards gives the same results and events, and the cards stay the same in
all but the length of the image, its bytes, and the conditions that the length decides. -/
theorem undisturbed_withTail (h : image.Trails tail) (hfive : 5 ≤ image.size / blockSize) :
    (image.size / blockSize < 0x100000000 → ∃ c, ofImage image = .ok c) ∧
      (∀ failure, ofImage image = .error failure →
        ofImage (image.withTail tail) = .error failure) ∧
      ∀ c, ofImage image = .ok c → ∃ c', ofImage (image.withTail tail) = .ok c' ∧
        ∀ os, ((Operation.outcomes c' os).map fun outcome ↦ (outcome.result, outcome.events)) =
            ((Operation.outcomes c os).map fun outcome ↦ (outcome.result, outcome.events)) ∧
          (Operation.run c os).Undisturbed (Operation.run c' os) := by
  have hsize : systemBlocks.toNat * blockSize ≤ image.size :=
    (Nat.le_div_iff_mul_le (by decide)).1 hfive
  have hblock : blockSize ≤ image.size := Nat.le_trans (by decide) hsize
  refine ⟨fun hcount ↦ ?_, fun failure ↦ ofImage_withTail_eq_error h hsize, fun c hopen ↦ ?_⟩
  · have hblocks : image.blockCount = image.size / blockSize := Nat.mod_eq_of_lt hcount
    exact ⟨_, ofImage_eq_opened hsize (by omega)⟩
  · obtain ⟨-, hcount, rfl⟩ := ofImage_eq_ok.1 hopen
    refine ⟨opened (image.withTail tail), ofImage_eq_opened ?_ ?_, fun os ↦ ⟨?_, ?_⟩⟩
    · rw [Image.size_withTail]
      exact Nat.le_trans hsize (Nat.le_add_right _ _)
    · rw [h.blockCount_eq]
      exact hcount
    · exact (twins_opened h hblock).outcomes os
    · exact undisturbed_run h hblock os

/-- The card with one lost save, with a hundred bytes behind its eight blocks. -/
theorem undisturbed_withTail_strayBytes :
    let image : Image := ⟨strayBytes, none⟩
    let tail : Bytes := .fill 100 0xFF
    image.Trails tail ∧ 5 ≤ image.size / blockSize ∧
      ∃ c c', ofImage image = .ok c ∧ ofImage (image.withTail tail) = .ok c' ∧
        (Operation.run c [.addLost strayEntry, .selectDirectory 1]).Undisturbed
          (Operation.run c' [.addLost strayEntry, .selectDirectory 1]) := by
  intro image tail
  have hsize : image.size = 8 * blockSize := by rw [Image.size, size_strayBytes]
  have htrails : image.Trails tail := by
    refine ⟨?_, ?_, ?_⟩
    · rw [hsize]
      exact Nat.mul_mod_left 8 blockSize
    · rw [Bytes.size_fill]
      decide
    · rw [Bytes.size_fill]
      decide
  have hblocks : image.size / blockSize = 8 := by
    rw [hsize]
    exact Nat.mul_div_left 8 (by decide)
  have hfive : 5 ≤ image.size / blockSize := by
    rw [hblocks]
    decide
  obtain ⟨hopens, -, hboth⟩ := undisturbed_withTail htrails hfive
  obtain ⟨c, hopen⟩ := hopens (by rw [hblocks]; decide)
  obtain ⟨c', hopen', hsame⟩ := hboth c hopen
  exact ⟨htrails, hfive, c, c', hopen, hopen', (hsame _).2⟩

end Card
end MemoryCard
