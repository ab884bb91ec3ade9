import MemoryCard.Proofs.Card.Observers
import MemoryCard.Proofs.Card.Verdict

/-! # Recovery and the directory agree

An entry of the directory that is not in use can be taken up as a lost file, and it is listed as a
regular file once that directory is put in use. Both ways follow the same links. Where these lead to the
end of a chain, the two files tell the same about the entry, whatever length it records; the lost file
can only be refused for a block that another file has, while the regular one is listed all the same.
-/

namespace MemoryCard

/-- The files tell the same about one entry, but for where they come from and which blocks they share
with other files. -/
structure SaveFile.Agrees (f g : SaveFile) : Prop where
  entry : f.entry = g.entry
  chain : f.chain = g.chain
  defect : f.issues.defect? = g.issues.defect?
  mismatch : f.issues.mismatch? = g.issues.mismatch?
  charset : f.charset = g.charset

namespace Card

variable {c : Card} {slot : Nat} {e : Entry} {w : Walk}

/-! ## The regular file of a slot -/

/-- No two files are listed with the same slot. -/
theorem Consistent.eq_of_slot (h : c.Consistent) {f g : SaveFile} (hf : f ∈ c.regularFiles)
    (hg : g ∈ c.regularFiles) (hfslot : f.origin = .regular slot)
    (hgslot : g.origin = .regular slot) : f = g := by
  have hordered : c.regularFiles.Pairwise fun f g ↦ f.origin ≠ g.origin := by
    rw [h.regularFiles_eq]
    refine (Listing.pairwise_build _ c.tables.directory.pairwise_used).imp ?_
    rintro f g ⟨m, n, hm, hn, hlt⟩ hsame
    rw [hm, hn, Origin.regular.injEq] at hsame
    exact Nat.ne_of_lt hlt hsame
  have : Std.Symm fun f g : SaveFile ↦ f.origin ≠ g.origin := ⟨fun _ _ ↦ Ne.symm⟩
  by_contra hne
  exact hordered.forall hf hg hne (hfslot.trans hgslot.symm)

/-- With the other directory in use, its entries are listed by the links of the same allocation
table. -/
theorem exists_listed (hused : (slot, e) ∈ c.tables.directories.idle.used)
    (hwalk : c.tables.allocation.walk e.firstBlock e.length c.size = .ok w) :
    ∃ crossLinked, Listing.regularFile c.charset slot e w crossLinked ∈
      (c.withCopies c.tables.directories.inUse.other c.tables.allocations.inUse).regularFiles := by
  rw [(consistent_withCopies _ _ _).regularFiles_eq]
  exact Listing.exists_mem_build hused hwalk c.charset (Usage.blank c.size)

/-! ## The lost file of an entry -/

/-- Nothing else is tried for an entry whose links lead to the end of a chain. -/
theorem addLost_of_linked (hunused : e.isUnused = false)
    (hwalk : c.tables.allocation.walk e.firstBlock e.length c.size = .ok w)
    (hsound : w.defect? = none) :
    c.addLost e = c.addSalvaged (c.accept (.ofList c.lostBlocks) e (.ofWalk w)) := by
  have hpropose : c.propose e e.firstBlock e.stopBlock = .ok (.ofWalk w) := by
    rw [propose, Proposal.ofEntry_of_used hunused, hwalk]
    simp [hsound]
  rw [addLost, salvage, hpropose, ok_bind]

theorem agrees_regularFile (c : Card) (slot : Nat) (e : Entry) (w : Walk) (crossLinked : Bool) :
    (c.lostFile e (.ofWalk w)).Agrees (Listing.regularFile c.charset slot e w crossLinked) :=
  ⟨rfl, rfl, rfl, rfl, rfl⟩

/-- The file is added unless some file on the card has a block of its chain. -/
theorem Consistent.addLost_linked_cases (h : c.Consistent) (hunused : e.isUnused = false)
    (hwalk : c.tables.allocation.walk e.firstBlock e.length c.size = .ok w)
    (hsound : w.defect? = none) :
    ((∀ b ∈ w.blocks, ¬ c.Owns b) ∧ (c.addLost e).result = .ok c.files.length ∧
        (c.addLost e).card = c.extend [c.lostFile e (.ofWalk w)]) ∨
      ∃ block ∈ w.blocks, c.Owns block ∧ (c.addLost e).result = .error (.overlap block) ∧
        (c.addLost e).card = c := by
  have hproper : ProperChain c.size (Proposal.ofWalk w).chain := Allocation.walk_proper hwalk
  rw [addLost_of_linked hunused hwalk hsound]
  cases haccept : c.accept (.ofList c.lostBlocks) e (.ofWalk w) with
  | ok f =>
      obtain ⟨hfree, rfl⟩ := (h.accept_lostBlocks_eq_ok hproper).1 haccept
      exact .inl ⟨hfree, addSalvaged_eq c _⟩
  | error failure =>
      obtain ⟨front, block, rest, hchain, -, howned, rfl⟩ :=
        (h.accept_lostBlocks_eq_error hproper).1 haccept
      have hmem : block ∈ (Proposal.ofWalk w).chain := by simp [hchain]
      exact .inr ⟨block, hmem, howned, addSalvaged_eq c _⟩

/-- On a card with which anything may have been done, let the links of an entry in the directory that is
not in use lead to the end of a chain. After this directory has been put in use, with the same allocation
table and whether or not the entry has been taken up before, there is one regular file in the slot of
the entry. Taking up the entry as a lost file gives a file that agrees with this regular one, or it fails
for a block of its chain that another file has, and for no other reason. -/
theorem addLost_agrees (h : c.Reachable) (hused : (slot, e) ∈ c.tables.directories.idle.used)
    (hwalk : c.tables.allocation.walk e.firstBlock e.length c.size = .ok w)
    (hsound : w.defect? = none) :
    let other := c.tables.directories.inUse.other
    let listed := c.selectDirectory other.toByte
    listed.result = .ok () ∧ listed.card.tables = c.tables.use other c.tables.allocations.inUse ∧
      ((c.addLost e).card.selectDirectory other.toByte).card = listed.card ∧
      ∃ g ∈ listed.card.regularFiles, g.origin = .regular slot ∧ g.entry = e ∧
        g.chain = w.blocks ∧ g.issues.mismatch? = w.mismatch? ∧
        (∀ f ∈ listed.card.regularFiles, f.origin = .regular slot → f = g) ∧
        ((∃ index, (c.addLost e).result = .ok index) ↔ ∀ b ∈ g.chain, ¬ c.Owns b) ∧
        (∀ index, (c.addLost e).result = .ok index → index = c.files.length ∧
          ∃ f, (c.addLost e).card.files = c.files ++ [f] ∧ f.isLost = true ∧ f.Agrees g) ∧
        ∀ failure, (c.addLost e).result = .error failure →
          ∃ block ∈ g.chain, c.Owns block ∧ failure = .overlap block := by
  intro other listed
  have hlisted : listed = ⟨.ok (), c.withCopies other c.tables.allocations.inUse,
      c.relistEvents (c.withCopies other c.tables.allocations.inUse)⟩ :=
    selectDirectory_of_ne (Copy.ne_other _)
  have hunused : e.isUnused = false := (Directory.mem_used.1 hused).2
  obtain ⟨crossLinked, hg⟩ := exists_listed hused hwalk
  have hcases := h.consistent.addLost_linked_cases hunused hwalk hsound
  rw [hlisted]
  refine ⟨rfl, rfl, ?_, _, hg, rfl, rfl, rfl, rfl, fun f hf hslot ↦ ?_, ?_⟩
  · -- lost files are dropped when another directory is put in use
    obtain ⟨files, -, hcard⟩ := c.addLost_card e
    have hother := selectDirectory_of_ne (c := c.extend files) (d := other) (Copy.ne_other _)
    rw [hcard, hother]
    rfl
  · exact (consistent_withCopies c _ _).eq_of_slot hf hg hslot rfl
  · rcases hcases with ⟨hfree, hresult, hcard⟩ | ⟨block, hblock, howned, hresult, -⟩
    · rw [hresult, hcard]
      refine ⟨iff_of_true ⟨_, rfl⟩ hfree, ?_, nofun⟩
      rintro index ⟨⟩
      exact ⟨rfl, _, rfl, rfl, c.agrees_regularFile slot e w crossLinked⟩
    · rw [hresult]
      refine ⟨iff_of_false nofun fun hfree ↦ hfree block hblock howned, nofun, ?_⟩
      rintro failure ⟨⟩
      exact ⟨block, hblock, howned, rfl⟩

/-- Two files that only the older directory lists. One records a block too many, and the block of the
other has gone to the file that the newer directory lists. -/
def superseded : System where
  header := .read .empty
  directories d :=
    ⟨if d.val = 0 then [entryOf 7 2, entryOf 6 1] else [entryOf 5 2], d.val.toUInt16, 0⟩
  allocations a := ⟨a.val.toUInt16, 0, 7, #[6, Allocation.lastLink, Allocation.lastLink], 0⟩

theorem exists_superseded : ∃ sums image c,
    Image.write ⟨.fill (8 * blockSize) 0, none⟩ superseded = .ok (sums, image) ∧
      ofImage image = .ok c ∧ c.tables.directories.inUse = 1 ∧
      c.tables.directories.idle.used = [(0, entryOf 7 2), (1, entryOf 6 1)] ∧
      c.tables.allocation.walk 7 2 c.size = .ok ⟨[7], none, some (2, 1)⟩ ∧
      c.tables.allocation.walk 6 1 c.size = .ok ⟨[6], none, none⟩ ∧
      ∀ b, c.Owns b ↔ b = 5 ∨ b = 6 := by
  obtain ⟨sums, image, c, hwrite, hopen, hsize, hshows⟩ := exists_shows superseded
  have hreach : c.Reachable := ⟨image, c, [], hopen, rfl⟩
  have hinUse : c.tables.directories.inUse = 1 := hshows.directory_inUse
  have hlink : c.tables.allocation.link? 5 = some 6 ∧
      c.tables.allocation.link? 6 = some Allocation.lastLink ∧
      c.tables.allocation.link? 7 = some Allocation.lastLink := by
    rw [Tables.allocation, Copies.current, hshows.allocation]
    exact ⟨rfl, rfl, rfl⟩
  have hidle : c.tables.directories.idle.used = [(0, entryOf 7 2), (1, entryOf 6 1)] := by
    rw [Copies.idle, hinUse, hshows.directory]
    rfl
  have hused : c.tables.directory.used = [(0, entryOf 5 2)] := by
    rw [Tables.directory, Copies.current, hinUse, hshows.directory]
    rfl
  have hone (b : UInt16) (hdata : isDataBlock 8 b = true)
      (hlast : c.tables.allocation.link? b = some Allocation.lastLink) :
      c.tables.allocation.IsPath 8 [b] none :=
    { isData := by simpa using hdata
      nodup := List.nodup_singleton b
      linked := List.isChain_singleton b
      ending := ⟨b, rfl, .marked hlast⟩ }
  have htwo : c.tables.allocation.IsPath 8 [5, 6] none :=
    { isData := by simpa using ⟨rfl, rfl⟩
      nodup := by decide
      linked := List.isChain_pair.2 hlink.1
      ending := ⟨6, rfl, .marked hlink.2.1⟩ }
  have hwalk := htwo.walk_eq rfl (by rw [hlink.1]; decide) 2
  have hfiles := hreach.consistent.regularFiles_eq
  rw [Listing.ofTables, hused, hsize] at hfiles
  simp only [Listing.build, Listing.file?, entryOf, hwalk] at hfiles
  refine ⟨sums, image, c, hwrite, hopen, hinUse, hidle, ?_, ?_, fun b ↦ ?_⟩
  · rw [hsize]
    exact (hone 7 rfl hlink.2.2).walk_eq rfl (by rw [hlink.2.2]; decide) 2
  · rw [hsize]
    exact (hone 6 rfl hlink.2.1).walk_eq rfl (by rw [hlink.2.1]; decide) 1
  · simp [Owns, files_ofImage hopen, hfiles]

/-- On a card of eight blocks, of the two files that only the older directory lists one is taken up as
it would be listed, with a note of its length, and the other one is refused for block 6. -/
theorem addLost_agrees_superseded : ∃ sums image c,
    Image.write ⟨.fill (8 * blockSize) 0, none⟩ superseded = .ok (sums, image) ∧
      ofImage image = .ok c ∧ c.Reachable ∧
      c.tables.directories.idle.used = [(0, entryOf 7 2), (1, entryOf 6 1)] ∧
      c.tables.allocation.walk 7 2 c.size = .ok ⟨[7], none, some (2, 1)⟩ ∧
      c.tables.allocation.walk 6 1 c.size = .ok ⟨[6], none, none⟩ ∧
      (∃ g ∈ (c.selectDirectory 0).card.regularFiles, g.origin = .regular 0 ∧
        ∃ f, (c.addLost (entryOf 7 2)).card.files = c.files ++ [f] ∧ f.isLost = true ∧
          f.Agrees g ∧ f.chain = [7] ∧ f.issues.mismatch? = some (2, 1)) ∧
      (c.addLost (entryOf 6 1)).result = .error (.overlap 6) := by
  obtain ⟨sums, image, c, hwrite, hopen, hinUse, hidle, hwalk₇, hwalk₆, howns⟩ :=
    exists_superseded
  have hreach : c.Reachable := ⟨image, c, [], hopen, rfl⟩
  have hother : c.tables.directories.inUse.other.toByte = 0 := by
    rw [hinUse]
    rfl
  have hused₇ : (0, entryOf 7 2) ∈ c.tables.directories.idle.used := by simp [hidle]
  have hused₆ : (1, entryOf 6 1) ∈ c.tables.directories.idle.used := by simp [hidle]
  obtain ⟨-, -, -, g, hg, hslot, -, hchain, hmismatch, -, hadds, hadded, -⟩ :=
    addLost_agrees hreach hused₇ hwalk₇ rfl
  obtain ⟨-, -, -, g', -, -, -, hchain', -, -, hadds', -, hrefused⟩ :=
    addLost_agrees hreach hused₆ hwalk₆ rfl
  rw [hother] at hg
  refine ⟨sums, image, c, hwrite, hopen, hreach, hidle, hwalk₇, hwalk₆, ⟨g, hg, hslot, ?_⟩, ?_⟩
  · obtain ⟨index, hindex⟩ := hadds.2 (by simp [hchain, howns])
    obtain ⟨-, f, hfiles, hlost, hagrees⟩ := hadded index hindex
    exact ⟨f, hfiles, hlost, hagrees, hagrees.chain.trans hchain, hagrees.mismatch.trans hmismatch⟩
  · cases hresult : (c.addLost (entryOf 6 1)).result with
    | ok index => exact absurd (hadds'.1 ⟨index, hresult⟩) (by simp [hchain', howns])
    | error failure =>
        obtain ⟨block, hblock, -, rfl⟩ := hrefused failure hresult
        rw [hchain', List.mem_singleton] at hblock
        rw [hblock]

end Card
end MemoryCard
