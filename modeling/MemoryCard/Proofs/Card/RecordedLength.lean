import MemoryCard.Proofs.Card.ChosenChain

/-! # Recorded lengths

An entry records how many blocks its file has. Where a chain is found by links, and where the caller
has chosen it, the card notes if it has another number of blocks. A file in one piece gets no note: it
is taken for granted that the blocks between the given bounds are as many as the entry records. This is
so where the bounds are those of the entry itself and fit in 16 bits, but the bounds of a sighting may
be anything.
-/

namespace MemoryCard

/-! ## What an operation makes -/

namespace Operation

/-- The lost files that an operation can add to a card, as far as they are not refused. -/
inductive Makes (c : Card) : Operation → SaveFile → Prop
  | entry {e : Entry} {p : Proposal} (h : c.propose e e.firstBlock e.stopBlock = .ok p) :
      Makes c (.addLost e) (c.lostFile e p)
  | chain {e : Entry} {chain : List UInt16} {p : Proposal}
      (h : Proposal.ofChain c.size e chain = .ok p) :
      Makes c (.addLostChain e chain) (c.lostFile e p)
  | sighting {sightings : List Sighting} {s : Sighting} {p : Proposal} (hs : s ∈ sightings)
      (h : c.proposeSighting s = .ok p) : Makes c (.addSightings sightings) (c.lostFile s.entry p)

end Operation

namespace Card

variable {c : Card} {f : SaveFile}

theorem Consistent.mem_lostFiles_addSalvaged (h : c.Consistent) {e : Entry} {reserved : BlockSet}
    {r : Except Failure Proposal}
    (hf : f ∈ (c.addSalvaged (r >>= c.accept reserved e)).card.lostFiles) :
    f ∈ c.lostFiles ∨ ∃ p, r = .ok p ∧ f = c.lostFile e p := by
  cases htry : r >>= c.accept reserved e with
  | error failure =>
      rw [htry] at hf
      exact .inl hf
  | ok g =>
      obtain ⟨p, hp, haccept⟩ := bind_eq_ok.1 htry
      rw [htry, (addSalvaged_eq c (.ok g)).2, withVerdict, lostFiles_extend h] at hf
      rcases List.mem_append.1 hf with hf | hf
      · exact .inl hf
      · rw [List.mem_singleton.1 hf]
        exact .inr ⟨p, hp, (accept_eq_ok.1 haccept).2⟩

/-- Lost files stay as they are or go, and those that come are made of what the operation names. -/
theorem Consistent.mem_lostFiles_apply (h : c.Consistent) {o : Operation}
    (hf : f ∈ (o.apply c).card.lostFiles) : f ∈ c.lostFiles ∨ o.Makes c f := by
  -- choosing a copy drops the lost files unless the copy is in use already
  have hselection (ho : o.isSelection = true) : f ∈ c.lostFiles := by
    rcases Operation.apply_card_of_selection (c := c) ho with hsame | ⟨d, a, hcopies⟩
    · rwa [hsame] at hf
    · rw [hcopies, withCopies, lostFiles_relist] at hf
      cases hf
  cases o with
  | selectDirectory n => exact .inl (hselection rfl)
  | selectAllocation n => exact .inl (hselection rfl)
  | addLost e =>
      rcases h.mem_lostFiles_addSalvaged hf with hf | ⟨p, hp, rfl⟩
      · exact .inl hf
      · exact .inr (.entry hp)
  | addLostChain e chain =>
      rcases h.mem_lostFiles_addSalvaged hf with hf | ⟨p, hp, rfl⟩
      · exact .inl hf
      · exact .inr (.chain hp)
  | addSightings sightings =>
      have hcard := c.addSightings_card sightings
      rw [Operation.apply, hcard, lostFiles_extend h] at hf
      rcases List.mem_append.1 hf with hf | hf
      · exact .inl hf
      · obtain ⟨s, hs, p, hp, rfl⟩ := mem_salvageAll hf
        exact .inr (.sighting hs hp)
  | removeLost =>
      have hcard := c.removeLost_card
      change f ∈ c.removeLost.card.lostFiles at hf
      rw [hcard, lostFiles_withoutLost] at hf
      cases hf

/-- What holds of all files that the operations of a run can make holds of all lost files after it. -/
theorem Consistent.forall_lostFiles_run {P : SaveFile → Prop} {os : List Operation}
    (h : c.Consistent) (hlost : ∀ f ∈ c.lostFiles, P f)
    (hmakes : ∀ c, ∀ o ∈ os, ∀ f, o.Makes c f → P f) : ∀ f ∈ (Operation.run c os).lostFiles, P f := by
  suffices hrun : (Operation.run c os).Consistent ∧ ∀ f ∈ (Operation.run c os).lostFiles, P f from
    hrun.2
  refine Operation.run_induction_of_mem (P := fun c ↦ c.Consistent ∧ ∀ f ∈ c.lostFiles, P f) ?_
    ⟨h, hlost⟩
  rintro c o ho ⟨hc, hlost⟩
  refine ⟨hc.apply o, fun f hf ↦ ?_⟩
  rcases hc.mem_lostFiles_apply hf with hf | hf
  · exact hlost f hf
  · exact hmakes c o ho f hf

end Card

/-! ## Files in one piece -/

/-- The blocks between two bounds are as many as the entry records. -/
def Entry.Spans (e : Entry) (start stop : UInt16) : Prop :=
  stop.toNat - start.toNat = e.length.toNat

theorem Proposal.Proposed.contiguous_or {allocation : Allocation} {size start stop : UInt16}
    {e : Entry} {p : Proposal} (h : Proposed allocation size e start stop (.ok p)) :
    (p.basis = .contiguous ∧ p.issues = {} ∧ p.chain.length = stop.toNat - start.toNat) ∨
      (p.basis = .allocation ∧ p.issues.mismatch? = mismatch? e.length p.chain) := by
  cases h with
  | linked _ hwalk _ => exact .inr ⟨rfl, Allocation.walk_mismatch hwalk⟩
  | inOnePiece _ _ _ => exact .inl ⟨rfl, rfl, length_blockRow _ _⟩
  | damaged _ _ hwalk _ => exact .inr ⟨rfl, Allocation.walk_mismatch hwalk⟩

namespace SaveFile

variable {f : SaveFile}

/-- The file was taken up in one piece, since the links of its blocks were of no use. -/
def IsInOnePiece (f : SaveFile) : Prop := ∃ credible, f.origin = .lost .contiguous credible

/-- A file in one piece notes nothing, and any other file compares the lengths. -/
structure Compares (f : SaveFile) : Prop where
  inOnePiece : f.IsInOnePiece → f.issues = {}
  otherwise : ¬ f.IsInOnePiece → f.issues.mismatch? = mismatch? f.entry.length f.chain

theorem Compares.notesLength_iff {size : UInt16} (h : f.Compares) (hproper : ProperChain size f.chain) :
    f.NotesLength ↔ (f.IsInOnePiece → f.chain.length = f.entry.length.toNat) := by
  rw [SaveFile.notesLength_iff hproper]
  by_cases hpiece : f.IsInOnePiece
  · have hlength := length_lt_of_nodup hproper.isData hproper.nodup
    rw [h.inOnePiece hpiece, imp_iff_right hpiece, ← Allocation.mismatch?_eq_none_iff hlength,
      eq_comm]
  · exact iff_of_true (h.otherwise hpiece) fun hpiece' ↦ absurd hpiece' hpiece

end SaveFile

namespace Card

variable {c : Card} {f : SaveFile} {e : Entry} {p : Proposal}

theorem isInOnePiece_lostFile : (c.lostFile e p).IsInOnePiece ↔ p.basis = .contiguous := by
  simp [SaveFile.IsInOnePiece, lostFile]

theorem Consistent.not_isInOnePiece (h : c.Consistent) (hf : f ∈ c.regularFiles) :
    ¬ f.IsInOnePiece := by
  rintro ⟨credible, hlost⟩
  obtain ⟨slot, hregular, -⟩ := h.exists_slot hf
  cases hlost.symm.trans hregular

theorem Consistent.compares_regular (h : c.Consistent) (hf : f ∈ c.regularFiles) : f.Compares :=
  ⟨fun hpiece ↦ absurd hpiece (h.not_isInOnePiece hf), fun _ ↦ Allocation.walk_mismatch (h.walk_eq hf)⟩

end Card

namespace Operation

/-- In one piece, files can only have the number of blocks that their entries record. -/
def KeepsLengths : Operation → Prop
  | addLost e => e.Spans e.firstBlock e.stopBlock
  | addSightings sightings => ∀ s ∈ sightings, s.entry.Spans s.bounds.1 s.bounds.2
  | _ => True

variable {c : Card} {o : Operation} {f : SaveFile}

/-- An operation makes files in one piece without a note, and others that compare the lengths. -/
theorem Makes.inOnePiece_or (h : o.Makes c f) :
    (f.IsInOnePiece ∧ f.issues = {} ∧ (o.KeepsLengths → f.chain.length = f.entry.length.toNat)) ∨
      (¬ f.IsInOnePiece ∧ f.issues.mismatch? = mismatch? f.entry.length f.chain) := by
  have hproposed {e : Entry} {start stop : UInt16} {p : Proposal}
      (h : Proposal.Proposed c.tables.allocation c.size e start stop (.ok p))
      (hspans : o.KeepsLengths → e.Spans start stop) :
      ((c.lostFile e p).IsInOnePiece ∧ p.issues = {} ∧
          (o.KeepsLengths → p.chain.length = e.length.toNat)) ∨
        (¬ (c.lostFile e p).IsInOnePiece ∧ p.issues.mismatch? = mismatch? e.length p.chain) := by
    rw [Card.isInOnePiece_lostFile]
    rcases h.contiguous_or with ⟨hbasis, hissues, hlength⟩ | ⟨hbasis, hmismatch⟩
    · exact .inl ⟨hbasis, hissues, fun ho ↦ hlength.trans (hspans ho)⟩
    · exact .inr ⟨by simp [hbasis], hmismatch⟩
  cases h with
  | entry h => exact hproposed (Proposal.ofEntry_eq_iff.1 h) id
  | sighting hs h => exact hproposed (Card.proposeSighting_eq_iff.1 h) fun ho ↦ ho _ hs
  | chain h =>
      cases Proposal.ofChain_eq_iff.1 h with
      | sound _ _ =>
          rw [Card.isInOnePiece_lostFile]
          exact .inr ⟨by simp [Proposal.chosen], rfl⟩

theorem Makes.compares (h : o.Makes c f) : f.Compares := by
  rcases h.inOnePiece_or with ⟨hpiece, hissues, -⟩ | ⟨hpiece, hmismatch⟩
  · exact ⟨fun _ ↦ hissues, fun hpiece' ↦ absurd hpiece hpiece'⟩
  · exact ⟨fun hpiece' ↦ absurd hpiece' hpiece, fun _ ↦ hmismatch⟩

theorem Makes.length_eq (h : o.Makes c f) (ho : o.KeepsLengths) (hf : f.IsInOnePiece) :
    f.chain.length = f.entry.length.toNat := by
  rcases h.inOnePiece_or with ⟨-, -, hlength⟩ | ⟨hpiece, -⟩
  · exact hlength ho
  · exact absurd hf hpiece

end Operation

namespace Card

variable {c : Card} {o : ScanOptions} {found : List Sighting}

/-- What a search has found keeps to the bounds that the entries give. -/
theorem keepsLengths_of_scan (h : c.Reachable) (hscan : c.scan o = .ok found) :
    (Operation.addSightings found).KeepsLengths := by
  intro s hs
  have hresult := isSearchResult_of_scan h hscan
  have hcredible := ((hresult.mem_iff s).1 hs).1.credible
  rw [(hresult.stands s hs).hints, Sighting.bounds_of]
  exact Entry.stopBlock_sub hcredible

/-- After any run on a card that was just opened, every file notes its recorded and its real length
exactly if they differ, but for files in one piece, which note nothing whatever their lengths are. No
file is an exception if the operations leave no choice but the lengths of the entries to files in one
piece, as taking up what a search has found does. -/
theorem notesLength_run {image : Image} {c : Card} (h : ofImage image = .ok c)
    (os : List Operation) :
    let r := Operation.run c os
    (∀ f ∈ r.files, f.NotesLength ↔ (f.IsInOnePiece → f.chain.length = f.entry.length.toNat)) ∧
      (∀ f ∈ r.files, f.IsInOnePiece → f.issues = {}) ∧
      ((∀ o ∈ os, o.KeepsLengths) → ∀ f ∈ r.files, f.NotesLength) ∧
      ∀ options found, r.scan options = .ok found → (Operation.addSightings found).KeepsLengths := by
  intro r
  have hopened : c.Reachable := ⟨image, c, [], h, rfl⟩
  have hreach : r.Reachable := ⟨image, c, os, h, rfl⟩
  have hfiles {P : SaveFile → Prop} (hregular : ∀ f ∈ r.regularFiles, P f)
      (hmakes : ∀ c, ∀ o ∈ os, ∀ f, o.Makes c f → P f) : ∀ f ∈ r.files, P f := by
    have hlost := hopened.consistent.forall_lostFiles_run (by simp [lostFiles_ofImage h]) hmakes
    rw [r.files_eq]
    exact List.forall_mem_append.2 ⟨hregular, hlost⟩
  have hcompares : ∀ f ∈ r.files, f.Compares :=
    hfiles (fun f ↦ hreach.consistent.compares_regular) fun _ _ _ _ ↦ Operation.Makes.compares
  have hiff (f : SaveFile) (hf : f ∈ r.files) :
      f.NotesLength ↔ (f.IsInOnePiece → f.chain.length = f.entry.length.toNat) :=
    (hcompares f hf).notesLength_iff (hreach.consistent.ownership.proper f hf)
  refine ⟨hiff, fun f hf ↦ (hcompares f hf).inOnePiece, fun hkeeps f hf ↦ ?_,
    fun options found ↦ keepsLengths_of_scan hreach⟩
  -- regular files are not concerned, and the operations make no others of a wrong length
  have hlength : ∀ f ∈ r.files, f.IsInOnePiece → f.chain.length = f.entry.length.toNat := by
    refine hfiles (fun f hf hpiece ↦ ?_) fun c o ho f hmade ↦ hmade.length_eq (hkeeps o ho)
    exact absurd hpiece (hreach.consistent.not_isInOnePiece hf)
  exact (hiff f hf).2 (hlength f hf)

/-- A file of one block is taken up in one piece, and it has nothing to note. -/
theorem notesLength_run_halfErased : ∃ sums image c f os,
    Image.write ⟨.fill (8 * blockSize) 0, none⟩ halfErased = .ok (sums, image) ∧
      ofImage image = .ok c ∧ os = [.addSightings [⟨entryOf 7 1, 0, .blockPool, 7, 8⟩]] ∧
      (∀ o ∈ os, o.KeepsLengths) ∧ f ∈ (Operation.run c os).files ∧ f.IsInOnePiece ∧
      f.chain = [7] ∧ f.issues = {} ∧ f.NotesLength ∧
      (Operation.run c os).scan { idleDirectory := false, blockPool := false } = .ok [] ∧
      (Operation.addSightings []).KeepsLengths := by
  obtain ⟨sums, image, c, hwrite, hopen, -, -, -, howns, -, hproposed⟩ := exists_opened_halfErased
  have hreach : c.Reachable := ⟨image, c, [], hopen, rfl⟩
  have hp : c.proposeSighting ⟨entryOf 7 1, 0, .blockPool, 7, 8⟩ = .ok ⟨[7], .contiguous, {}⟩ :=
    proposeSighting_eq_iff.2 (hproposed 7 1 (.inr rfl))
  have hcard := hreach.consistent.addSightings_singleton hp (by simp [howns])
  obtain ⟨-, hissues, hnotes, hscan⟩ := notesLength_run hopen
    [.addSightings [⟨entryOf 7 1, 0, .blockPool, 7, 8⟩]]
  have hkeeps : ∀ o ∈ [Operation.addSightings [⟨entryOf 7 1, 0, .blockPool, 7, 8⟩]],
      o.KeepsLengths :=
    List.forall_mem_singleton.2 (List.forall_mem_singleton.2 rfl)
  have hempty : (Operation.run c [.addSightings [⟨entryOf 7 1, 0, .blockPool, 7, 8⟩]]).scan
      { idleDirectory := false, blockPool := false } = .ok [] := by
    simp [scan, Sighting.firstOfEach]
  have hmem : c.lostFile (entryOf 7 1) ⟨[7], .contiguous, {}⟩ ∈
      (Operation.run c [.addSightings [⟨entryOf 7 1, 0, .blockPool, 7, 8⟩]]).files := by
    show _ ∈ (c.addSightings _).card.files
    rw [hcard]
    exact List.mem_append_right _ (List.mem_singleton_self _)
  have hpiece : (c.lostFile (entryOf 7 1) ⟨[7], .contiguous, {}⟩).IsInOnePiece :=
    isInOnePiece_lostFile.2 rfl
  exact ⟨sums, image, c, _, _, hwrite, hopen, rfl, hkeeps, hmem, hpiece, rfl, hissues _ hmem hpiece,
    hnotes hkeeps _ hmem, hempty, hscan _ _ hempty⟩

/-- A sighting that says that its file is block 7 gets this block, although its entry records two
blocks, and the file does not note it. -/
theorem not_notesLength_halfErased : ∃ sums image c f,
    Image.write ⟨.fill (8 * blockSize) 0, none⟩ halfErased = .ok (sums, image) ∧
      ofImage image = .ok c ∧
      f ∈ (Operation.run c [.addSightings [⟨entryOf 6 2, 0, .blockPool, 7, 8⟩]]).files ∧
      f.chain = [7] ∧ f.entry.length = 2 ∧ f.issues.isEmpty = true ∧ ¬ f.NotesLength := by
  obtain ⟨sums, image, c, hwrite, hopen, -, -, -, howns, -, hproposed⟩ := exists_opened_halfErased
  have hreach : c.Reachable := ⟨image, c, [], hopen, rfl⟩
  have hp : c.proposeSighting ⟨entryOf 6 2, 0, .blockPool, 7, 8⟩ = .ok ⟨[7], .contiguous, {}⟩ :=
    proposeSighting_eq_iff.2 (hproposed 6 2 (.inl rfl))
  have hcard := hreach.consistent.addSightings_singleton hp (by simp [howns])
  refine ⟨sums, image, c, c.lostFile (entryOf 6 2) ⟨[7], .contiguous, {}⟩, hwrite, hopen, ?_, rfl,
    rfl, rfl, fun hnotes ↦ ?_⟩
  · show _ ∈ (c.addSightings _).card.files
    rw [hcard]
    exact List.mem_append_right _ (List.mem_singleton_self _)
  · have hnoted := (hnotes 2 1).2 ⟨rfl, rfl, nofun⟩
    cases hnoted

end Card
end MemoryCard
