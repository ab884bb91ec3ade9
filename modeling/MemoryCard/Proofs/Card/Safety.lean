import MemoryCard.Proofs.Card.Ownership
import MemoryCard.Proofs.Card.Stored
import MemoryCard.Proofs.Careful.Card
import MemoryCard.Proofs.Careful.Reading
import MemoryCard.Report.Basic

/-! # Cards are safe to use

Whatever the bytes of an image are, opening it gives a card or tells that the image is too short. On
a card that was opened nothing is ever asked for that is not there: the tables were read from whole
blocks, the lost files begin inside the list, and the chains of all files lead through whole blocks of
the image.
-/

namespace MemoryCard

open Careful

/-! ## Readable tables -/

/-- No copy of a table was unreadable. -/
structure Tables.Readable (t : Tables) : Prop where
  directories : ∀ d, (t.directories.copy d).failure? = none
  allocations : ∀ a, (t.allocations.copy a).failure? = none

theorem Tables.readable_load {image : Image} (h : 5 ≤ image.blockCount) (size : UInt16) :
    (load image size).Readable where
  directories d := by
    rw [directories_eq_ofBlocks, Copies.copy_ofBlocks (Nat.lt_of_lt_of_le (Directory.home_lt d) h)]
    rfl
  allocations a := by
    rw [allocations_eq_ofBlocks,
      Copies.copy_ofBlocks (Nat.lt_of_lt_of_le (Allocation.home_lt a) h)]
    rfl

/-! ## Digests in reports -/

/-- The value that an object has under a key. -/
def Json.member? (key : String) : Json → Option Json
  | object members => members.lookup key
  | _ => none

namespace Report

/-- What a report says of a file has the digest of the bytes in the blocks of this file. -/
def HasDigest (image : Image) (f : SaveFile) (entry : Json) : Prop :=
  ∃ blocks, f.blocks image = .ok blocks ∧
    entry.member? "sha256" = some (.text (Sha256.text (blocks.foldl (· ++ ·) .empty)))

/-- A report speaks of these files in their order, each time with the digest of the file. -/
def IsDigested (image : Image) (files : List SaveFile) (report : Json) : Prop :=
  ∃ entries, report.member? "files" = some (.array entries) ∧
    List.Forall₂ (HasDigest image) files entries

theorem fileDigest?_of_blocks {image : Image} {f : SaveFile} {blocks : List Bytes}
    (h : f.blocks image = .ok blocks) :
    fileDigest? image f = some (Sha256.text (blocks.foldl (· ++ ·) .empty)) := by
  rw [fileDigest?, h]

theorem hasDigest_file {image : Image} {f : SaveFile} {blocks : List Bytes}
    (h : f.blocks image = .ok blocks) (index : Nat) : HasDigest image f (file image index f) := by
  refine ⟨blocks, h, ?_⟩
  have hdigest : (file image index f).member? "sha256" =
      some (.ofOption .text (fileDigest? image f)) := rfl
  rw [hdigest, fileDigest?_of_blocks h]
  rfl

/-- The entries of files that are all in the image have their digests, whichever number the first one
has. -/
theorem hasDigest_files {image : Image} {files : List SaveFile}
    (h : ∀ f ∈ files, ∃ blocks, f.blocks image = .ok blocks) (first : Nat) :
    List.Forall₂ (HasDigest image) files
      ((files.zipIdx first).map fun (f, index) ↦ file image index f) := by
  induction files generalizing first with
  | nil => exact .nil
  | cons f rest ih =>
      obtain ⟨blocks, hblocks⟩ := h f List.mem_cons_self
      rw [List.zipIdx_cons, List.map_cons]
      exact .cons (hasDigest_file hblocks first) (ih (fun g hg ↦ h g (.tail _ hg)) _)

theorem isDigested_ofCard {c : Card} (h : ∀ f ∈ c.files, ∃ blocks, f.blocks c.image = .ok blocks)
    (context : Context) : IsDigested c.image c.files (ofCard c context) :=
  ⟨_, rfl, hasDigest_files h 0⟩

end Report

namespace Card

/-! ## Safe cards -/

/-- All that can be asked of the card is there. Looking at a card leaves it as it is. -/
structure Safe (c : Card) : Prop where
  readable : c.tables.Readable
  lostFiles : c.lostFiles? = some c.lostFiles
  lostCount : c.lostCount? = some c.lostFiles.length
  lostBlocks : c.lostBlocks? = some c.lostBlocks
  operation : ∀ o : Operation, o.perform? c = some (o.apply c)
  block : ∀ index, c.block? index = of (c.block index)
  readBlock : ∀ index buffer, c.readBlock? index buffer = of (c.readBlock index buffer)
  /-- Every block of every file is a whole block of the image. -/
  whole : ∀ f ∈ c.files, ∀ b ∈ f.chain, ∃ data,
    c.image.block? b.toNat = of (.ok data) ∧ data.size = blockSize
  blocks : ∀ f ∈ c.files, ∃ data, f.blocks? c.image = of (.ok data)
  readAt : ∀ f ∈ c.files, ∀ offset len,
    f.readAt? c.image offset len = of (f.readAt c.image offset len)
  comments : ∀ f ∈ c.files, f.comments? c.image = of (f.comments c.image)
  /-- Every file of the report has the digest of its data. -/
  report : ∀ context, Report.IsDigested c.image c.files (Report.ofCard c context)

variable {c : Card} {image : Image}

/-- The image has every block of every file. -/
theorem Reachable.block_of_mem_chain (h : c.Reachable) {f : SaveFile} (hf : f ∈ c.files)
    {b : UInt16} (hb : b ∈ f.chain) : ∃ data, c.image.block b.toNat = .ok data :=
  h.block_eq_ok ((h.consistent.ownership.proper f hf).isData b hb)

theorem Reachable.blocks_eq_ok (h : c.Reachable) {f : SaveFile} (hf : f ∈ c.files) :
    f.blocks c.image = .ok (f.chain.map fun b ↦
      c.image.bytes.extract (b.toNat * blockSize) (b.toNat * blockSize + blockSize)) :=
  mapM_eq_ok fun b hb ↦ by
    obtain ⟨data, hdata⟩ := h.block_of_mem_chain hf hb
    obtain ⟨-, rfl⟩ := Image.block_eq_ok.1 hdata
    exact hdata

theorem Reachable.safe (h : c.Reachable) (hreadable : c.tables.Readable) : c.Safe where
  readable := hreadable
  lostFiles := lostFiles?_eq h.consistent.regularCount_le
  lostCount := lostCount?_eq h.consistent.regularCount_le
  lostBlocks := lostBlocks?_eq h.consistent.regularCount_le
  operation := Operation.perform?_eq h.consistent.regularCount_le
  block := c.block?_eq
  readBlock := c.readBlock?_eq
  whole f hf b hb := by
    obtain ⟨data, hdata⟩ := h.block_of_mem_chain hf hb
    exact ⟨data, by rw [Image.block?_eq, hdata], Image.size_block hdata⟩
  blocks f hf := ⟨_, by rw [f.blocks?_eq, h.blocks_eq_ok hf]⟩
  readAt f _ := f.readAt?_eq c.image
  comments f _ := f.comments?_eq c.image
  report := Report.isDigested_ofCard fun _ hf ↦ ⟨_, h.blocks_eq_ok hf⟩

/-- The copies of the tables are never changed. -/
theorem Follows.copies_eq {r : Card} (h : c.Follows r) :
    r.tables.directories.copy = c.tables.directories.copy ∧
      r.tables.allocations.copy = c.tables.allocations.copy := by
  obtain ⟨-, d, a, e⟩ := h
  have htables := congrArg Card.tables e
  change r.tables = (c.withCopies d a).tables at htables
  rw [htables]
  exact ⟨rfl, rfl⟩

theorem Follows.readable {r : Card} (h : c.Follows r) (hc : c.tables.Readable) :
    r.tables.Readable := by
  obtain ⟨hdirectories, hallocations⟩ := h.copies_eq
  exact ⟨hdirectories ▸ hc.directories, hallocations ▸ hc.allocations⟩

/-- Opening an image finds all bytes that it asks for. It gives a card if the image has five whole
blocks, and else the failure that it is too short. Whatever operations follow, they find what they
ask for, and so does all that is read from the card after any of them; no chain of a file leaves the
image. -/
theorem safe_run (image : Image) (hcount : image.size / blockSize < 0x100000000) :
    ofImage? image = of (ofImage image) ∧
      ((∃ c, ofImage image = .ok c) ↔ 5 * blockSize ≤ image.size) ∧
      (image.size < 5 * blockSize →
        ofImage image = .error (.tooShort "card image" (5 * blockSize) image.size)) ∧
      ∀ c, ofImage image = .ok c → ∀ os,
        Operation.run? c os = some (Operation.run c os) ∧ (Operation.run c os).Safe := by
  refine ⟨ofImage?_eq image, opens_iff hcount, ofImage_of_short, fun c hopen os ↦ ?_⟩
  obtain ⟨hsize, -, rfl⟩ := ofImage_eq_ok.1 hopen
  have hreadable : (opened image).tables.Readable :=
    Tables.readable_load (Image.five_le_blockCount hsize hcount) _
  refine ⟨Operation.run?_eq (consistent_opened image) os, ?_⟩
  exact Reachable.safe ⟨image, opened image, os, hopen, rfl⟩
    ((follows_run_opened image os).readable hreadable)

/-- A card of eight blocks of zeros, on which files are taken up and dropped while other tables are
put in use. -/
theorem safe_run_zeros : ∃ c, ofImage ⟨.fill (8 * blockSize) 0, none⟩ = .ok c ∧
    ∃ r, Operation.run? c [.addLostChain (.read .empty 0) [6, 5], .selectDirectory 1,
      .addLost (.read .empty 0), .addLostChain (.read .empty 0) [7, 5], .removeLost] = some r ∧
      r.Safe := by
  have hsize : (⟨.fill (8 * blockSize) 0, none⟩ : Image).size = 8 * blockSize := by
    rw [Image.size, Bytes.size_fill]
  have hcount : (⟨.fill (8 * blockSize) 0, none⟩ : Image).size / blockSize < 0x100000000 := by
    rw [hsize]
    decide
  obtain ⟨-, hopens, -, hrun⟩ := safe_run ⟨.fill (8 * blockSize) 0, none⟩ hcount
  obtain ⟨c, hopen⟩ := hopens.2 (by rw [hsize]; decide)
  exact ⟨c, hopen, _, hrun c hopen _⟩

end Card
end MemoryCard
