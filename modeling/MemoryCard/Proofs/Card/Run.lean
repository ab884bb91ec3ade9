import MemoryCard.Card.Operation
import MemoryCard.Proofs.Card.Salvage
import MemoryCard.Proofs.Encoding

/-! # What operations do to a card

An operation does one of three things to a card: it puts other copies of the tables in use and lists
the regular files anew, it puts a batch of recovered files at the end of the list, or it drops the
lost files. Everything that holds of all cards a run can reach is derived from
`Operation.apply_card`.
-/

namespace MemoryCard

/-! ## Opening -/

namespace Card

variable {c : Card} {image : Image}

/-- The card that is read from an image with all system blocks. -/
def opened (image : Image) : Card :=
  let block : Bytes := image.bytes.extract 0 blockSize
  let header := Header.read block
  let size := (min image.blockCount 0xFFFF).toUInt16
  let tables := Tables.load image size
  let listing := Listing.ofTables tables size header.charset
  { image, header, size, tables
    headerSum := ⟨block.u32 0x1FC, Header.sumSeal.compute block⟩
    sizeConditions := Conditions.ofLength image.size
    files := listing.files
    regularCount := listing.files.length
    usage := listing.usage }

theorem ofImage_eq_opened (hsize : systemBlocks.toNat * blockSize ≤ image.size)
    (hcount : 0 < image.blockCount) : ofImage image = .ok (opened image) := by
  have hblock : image.block 0 = .ok (image.bytes.extract 0 blockSize) := by
    rw [Image.block_eq_ok]
    exact ⟨hcount, by simp⟩
  have hwhole := Image.size_block hblock
  rw [ofImage, need_eq_ok hsize]
  simp only [ok_bind, hblock, Header.decode_eq_ok hwhole, Header.check_eq_ok hwhole]
  rfl

theorem ofImage_of_short (h : image.size < systemBlocks.toNat * blockSize) : ofImage image =
    .error (.tooShort "card image" (systemBlocks.toNat * blockSize) image.size) := by
  rw [ofImage, need, if_pos h]
  rfl

/-- The number of blocks is counted in 32 bits, and blocks that count as none cannot be read. -/
theorem ofImage_of_blockCount_eq_zero (hsize : systemBlocks.toNat * blockSize ≤ image.size)
    (hcount : image.blockCount = 0) : ofImage image = .error (.noSuchBlock 0 0) := by
  have hblock : image.block 0 = .error (.noSuchBlock 0 0) := by
    rw [Image.block, hcount]
    rfl
  rw [ofImage, need_eq_ok hsize, ok_bind, hblock]
  rfl

/-- An image can be opened exactly if it has all system blocks and its number of blocks does not
wrap around to zero. -/
theorem ofImage_eq_ok : ofImage image = .ok c ↔
    systemBlocks.toNat * blockSize ≤ image.size ∧ 0 < image.blockCount ∧ c = opened image := by
  rcases Nat.lt_or_ge image.size (systemBlocks.toNat * blockSize) with hshort | hsize
  · rw [ofImage_of_short hshort]
    simp [Nat.not_le.2 hshort]
  · rcases Nat.eq_zero_or_pos image.blockCount with hzero | hcount
    · rw [ofImage_of_blockCount_eq_zero hsize hzero]
      simp [hzero]
    · rw [ofImage_eq_opened hsize hcount]
      simp [hsize, hcount, eq_comm]

theorem opens_iff (hcount : image.size / blockSize < 0x100000000) :
    (∃ c, ofImage image = .ok c) ↔ 5 * blockSize ≤ image.size := by
  constructor
  · rintro ⟨c, h⟩
    exact (ofImage_eq_ok.1 h).1
  · intro hsize
    have hfive := Image.five_le_blockCount hsize hcount
    exact ⟨opened image, ofImage_eq_opened hsize (Nat.lt_of_lt_of_le (by decide) hfive)⟩

/-! ## The regular part of a card -/

/-- The card without its lost files. -/
def withoutLost (c : Card) : Card := { c with files := c.regularFiles }

/-- The card with these tables, its regular files listed anew, and no lost files. -/
def relist (c : Card) (t : Tables) : Card :=
  let listing := Listing.ofTables t c.size c.charset
  { c with
    tables := t
    files := listing.files
    regularCount := listing.files.length
    usage := listing.usage }

section Relist

variable (c : Card) (t : Tables)

theorem files_relist : (c.relist t).files = (Listing.ofTables t c.size c.charset).files := rfl

theorem regularCount_relist :
    (c.relist t).regularCount = (Listing.ofTables t c.size c.charset).files.length := rfl

theorem usage_relist : (c.relist t).usage = (Listing.ofTables t c.size c.charset).usage := rfl

end Relist

/-- The card with these copies of its tables in use, and no lost files. -/
def withCopies (c : Card) (d a : Copy) : Card := c.relist (c.tables.use d a)

/-- The card with more files at the end of its list. -/
def extend (c : Card) (files : List SaveFile) : Card := { c with files := c.files ++ files }

@[simp] theorem extend_nil (c : Card) : c.extend [] = c := by simp [extend]

@[simp] theorem withoutLost_relist (c : Card) (t : Tables) :
    (c.relist t).withoutLost = c.relist t := by
  simp [withoutLost, relist, regularFiles]

@[simp] theorem withoutLost_withoutLost (c : Card) : c.withoutLost.withoutLost = c.withoutLost := by
  simp [withoutLost, regularFiles, List.take_take]

@[simp] theorem lostFiles_relist (c : Card) (t : Tables) : (c.relist t).lostFiles = [] := by
  simp [relist, lostFiles]

@[simp] theorem lostFiles_withoutLost (c : Card) : c.withoutLost.lostFiles = [] := by
  simp [withoutLost, regularFiles, lostFiles]

@[simp] theorem extend_extend (c : Card) (files more : List SaveFile) :
    (c.extend files).extend more = c.extend (files ++ more) := by
  simp [extend]

theorem relist_opened (image : Image) :
    (opened image).relist (opened image).tables = opened image := rfl

theorem files_eq (c : Card) : c.files = c.regularFiles ++ c.lostFiles :=
  (List.take_append_drop c.regularCount c.files).symm

theorem withoutLost_eq_self (h : c.lostFiles = []) : c.withoutLost = c := by
  rw [withoutLost, ← List.append_nil c.regularFiles, ← h, ← c.files_eq]

theorem lostFiles_ofImage (h : ofImage image = .ok c) : c.lostFiles = [] := by
  obtain ⟨-, -, rfl⟩ := ofImage_eq_ok.1 h
  exact lostFiles_relist (opened image) _

/-- A card that was just opened has regular files only. -/
theorem files_ofImage (h : ofImage image = .ok c) : c.files = c.regularFiles := by
  rw [files_eq, lostFiles_ofImage h, List.append_nil]

/-! ## The card after each operation -/

theorem dropFrom_fst (c : Card) (first : Nat) :
    (c.dropFrom first).1 = { c with files := c.files.take first } := by
  unfold dropFrom
  split
  · rename_i h
    rw [List.take_of_length_le h]
  · rfl

theorem append_fst (c : Card) (files : List SaveFile) : (c.append files).1 = c.extend files := by
  unfold append
  split
  · rename_i h
    rw [List.isEmpty_iff.1 h, extend_nil]
  · rfl

theorem switch_card {select : Tables → Except Failure (Tables × Bool)} {t : Tables} {changed : Bool}
    (h : select c.tables = .ok (t, changed)) : (c.switch select).card = c.relist t := by
  have hempty : (c.dropFrom 0).1 = { c with files := [] } := by simp [dropFrom_fst]
  unfold switch
  rw [show c.dropFrom 0 = ((c.dropFrom 0).1, (c.dropFrom 0).2) from rfl, hempty]
  simp only [h, append_fst]
  simp [extend, relist, charset]

theorem selectDirectory_card (c : Card) (d : Copy) : (c.selectDirectory d.toByte).card =
    if c.tables.directories.inUse = d then c else c.withCopies d c.tables.allocations.inUse := by
  rw [selectDirectory, if_neg d.not_one_lt_toByte, Copy.toNat_toByte]
  by_cases h : c.tables.directories.inUse = d
  · simp [h]
  · rw [if_neg fun e ↦ h (Fin.ext e.symm), if_neg h,
      switch_card (Tables.selectDirectory_toByte _ h)]
    rfl

theorem selectAllocation_card (c : Card) (a : Copy) : (c.selectAllocation a.toByte).card =
    if c.tables.allocations.inUse = a then c else c.withCopies c.tables.directories.inUse a := by
  rw [selectAllocation, if_neg a.not_one_lt_toByte, Copy.toNat_toByte]
  by_cases h : c.tables.allocations.inUse = a
  · simp [h]
  · rw [if_neg fun e ↦ h (Fin.ext e.symm), if_neg h,
      switch_card (Tables.selectAllocation_toByte _ h)]
    rfl

/-- Choosing a copy changes the copies in use and nothing else about the tables. -/
theorem tables_selectDirectory (c : Card) (d : Copy) :
    (c.selectDirectory d.toByte).card.tables = c.tables.use d c.tables.allocations.inUse := by
  rw [selectDirectory_card]
  split
  · rename_i h
    rw [← h, Tables.use_inUse]
  · rfl

theorem tables_selectAllocation (c : Card) (a : Copy) :
    (c.selectAllocation a.toByte).card.tables = c.tables.use c.tables.directories.inUse a := by
  rw [selectAllocation_card]
  split
  · rename_i h
    rw [← h, Tables.use_inUse]
  · rfl

theorem selectDirectory_of_one_lt {n : UInt8} (h : 1 < n) :
    c.selectDirectory n = ⟨.error (.noSuchCopy n), c, []⟩ := if_pos h

theorem selectAllocation_of_one_lt {n : UInt8} (h : 1 < n) :
    c.selectAllocation n = ⟨.error (.noSuchCopy n), c, []⟩ := if_pos h

theorem addSalvaged_card {p : Except Failure Proposal} {e : Entry}
    (hproper : ∀ q, p = .ok q → ProperChain c.size q.chain) :
    ∃ files, c.IsBatch (.ofList c.lostBlocks) files ∧
      (c.addSalvaged (p >>= c.accept (.ofList c.lostBlocks) e)).card = c.extend files := by
  cases p with
  | error failure => exact ⟨[], .nil _, by simp [addSalvaged]⟩
  | ok q =>
      rw [ok_bind]
      cases haccept : c.accept (.ofList c.lostBlocks) e q with
      | error failure => exact ⟨[], .nil _, by simp [addSalvaged]⟩
      | ok f =>
          obtain ⟨hfree, rfl⟩ := accept_eq_ok.1 haccept
          exact ⟨_, .singleton (hproper q rfl) hfree, append_fst c [c.lostFile e q]⟩

theorem addLost_card (c : Card) (e : Entry) : ∃ files, c.IsBatch (.ofList c.lostBlocks) files ∧
    (c.addLost e).card = c.extend files :=
  addSalvaged_card fun _ ↦ Proposal.ofEntry_proper

theorem addLostChain_card (c : Card) (e : Entry) (chain : List UInt16) :
    ∃ files, c.IsBatch (.ofList c.lostBlocks) files ∧
      (c.addLostChain e chain).card = c.extend files :=
  addSalvaged_card fun _ ↦ Proposal.ofChain_proper

theorem addSightings_card (c : Card) (sightings : List Sighting) : (c.addSightings sightings).card =
    c.extend (c.salvageAll (.ofList c.lostBlocks) sightings) := append_fst _ _

theorem removeLost_card (c : Card) : c.removeLost.card = c.withoutLost := dropFrom_fst _ _

end Card

namespace Operation

/-- The operation chooses which copies of the tables are in use. -/
def isSelection : Operation → Bool
  | selectDirectory _ | selectAllocation _ => true
  | _ => false

/-- The operation takes up lost files. -/
def isAddition : Operation → Bool
  | addLost _ | addLostChain _ _ | addSightings _ => true
  | _ => false

theorem apply_card_of_addition {c : Card} {o : Operation} (h : o.isAddition = true) :
    ∃ files, c.IsBatch (.ofList c.lostBlocks) files ∧ (o.apply c).card = c.extend files := by
  cases o with
  | addLost e => exact c.addLost_card e
  | addLostChain e chain => exact c.addLostChain_card e chain
  | addSightings sightings =>
      exact ⟨_, Card.salvageAll_isBatch _ sightings, c.addSightings_card sightings⟩
  | selectDirectory n => cases h
  | selectAllocation n => cases h
  | removeLost => cases h

/-- What recovery does to a card: it adds a batch of recovered files or drops the lost files. -/
theorem apply_card_of_not_selection {c : Card} {o : Operation} (h : o.isSelection = false) :
    (∃ files, c.IsBatch (.ofList c.lostBlocks) files ∧ (o.apply c).card = c.extend files) ∨
      (o.apply c).card = c.withoutLost := by
  cases o with
  | selectDirectory n => cases h
  | selectAllocation n => cases h
  | addLost e => exact .inl (apply_card_of_addition rfl)
  | addLostChain e chain => exact .inl (apply_card_of_addition rfl)
  | addSightings sightings => exact .inl (apply_card_of_addition rfl)
  | removeLost => exact .inr c.removeLost_card

theorem tables_apply_of_not_selection {c : Card} {o : Operation} (h : o.isSelection = false) :
    (o.apply c).card.tables = c.tables := by
  rcases apply_card_of_not_selection (c := c) h with ⟨files, -, e⟩ | e <;> rw [e] <;> rfl

/-- What choosing a copy does to a card: nothing, or it lists the regular files with that copy in
use. -/
theorem apply_card_of_selection {c : Card} {o : Operation} (h : o.isSelection = true) :
    (o.apply c).card = c ∨ ∃ d a, (o.apply c).card = c.withCopies d a := by
  cases o with
  | selectDirectory n =>
      rcases Copy.eq_toByte_or n with hn | ⟨d, rfl⟩
      · exact .inl (congrArg Outcome.card (Card.selectDirectory_of_one_lt hn))
      · show (c.selectDirectory d.toByte).card = c ∨ ∃ d' a, (c.selectDirectory d.toByte).card = _
        rw [Card.selectDirectory_card]
        split
        · exact .inl rfl
        · exact .inr ⟨d, _, rfl⟩
  | selectAllocation n =>
      rcases Copy.eq_toByte_or n with hn | ⟨a, rfl⟩
      · exact .inl (congrArg Outcome.card (Card.selectAllocation_of_one_lt hn))
      · show (c.selectAllocation a.toByte).card = c ∨ ∃ d a', (c.selectAllocation a.toByte).card = _
        rw [Card.selectAllocation_card]
        split
        · exact .inl rfl
        · exact .inr ⟨_, a, rfl⟩
  | addLost e => cases h
  | addLostChain e chain => cases h
  | addSightings sightings => cases h
  | removeLost => cases h

/-- All that an operation can do to a card. -/
theorem apply_card (c : Card) (o : Operation) :
    (∃ d a, (o.apply c).card = c.withCopies d a) ∨
      (∃ files, c.IsBatch (.ofList c.lostBlocks) files ∧ (o.apply c).card = c.extend files) ∨
      (o.apply c).card = c.withoutLost := by
  cases h : o.isSelection with
  | false => exact .inr (apply_card_of_not_selection h)
  | true =>
      rcases apply_card_of_selection (c := c) h with hsame | hcopies
      · exact .inr (.inl ⟨[], .nil _, by rw [hsame, Card.extend_nil]⟩)
      · exact .inl hcopies

theorem run_append (c : Card) (os os' : List Operation) :
    run c (os ++ os') = run (run c os) os' := by
  induction os generalizing c with
  | nil => rfl
  | cons o rest ih => exact ih (o.apply c).card

/-- The outcomes of operations that are carried out one after the other. -/
def outcomes (c : Card) : List Operation → List (Outcome (List Nat))
  | [] => []
  | o :: rest => o.apply c :: outcomes (o.apply c).card rest

/-- What each operation of a run preserves holds after the run. -/
theorem run_induction_of_mem {P : Card → Prop} {os : List Operation}
    (hstep : ∀ c, ∀ o ∈ os, P c → P (apply c o).card) {c : Card} (hc : P c) : P (run c os) := by
  induction os generalizing c with
  | nil => exact hc
  | cons o rest ih =>
      obtain ⟨ho, hrest⟩ := List.forall_mem_cons.1 fun o ho c ↦ hstep c o ho
      exact ih (fun c o ho ↦ hrest o ho c) (ho c hc)

/-- What every operation preserves holds after every run. -/
theorem run_induction {P : Card → Prop} (hstep : ∀ c o, P c → P (apply c o).card) {c : Card}
    (hc : P c) (os : List Operation) : P (run c os) :=
  run_induction_of_mem (fun c o _ ↦ hstep c o) hc

end Operation

/-- A card that was read from an image and has undergone operations since. -/
def Card.Reachable (c : Card) : Prop :=
  ∃ image opened os, ofImage image = .ok opened ∧ c = Operation.run opened os

end MemoryCard
