import MemoryCard.Proofs.Card.Batch
import MemoryCard.Proofs.Card.Verdict

/-! # Chains that the caller chooses

A caller who knows better than the tables can say which blocks a lost file has. The entry is looked at
first, then the chain by itself, and last the files that are on the card already. So a chain with a
flaw is refused for the flaw even where a block of another file stands in front of it.
-/

namespace MemoryCard

namespace SaveFile

variable {f : SaveFile}

/-- The recorded and the real length of the file are noted exactly if they differ. -/
def NotesLength (f : SaveFile) : Prop := ∀ recorded found,
  f.issues.mismatch? = some (recorded, found) ↔
    recorded = f.entry.length ∧ found.toNat = f.chain.length ∧
      f.chain.length ≠ f.entry.length.toNat

/-- The lengths may be compared in 16 bits, since a chain without repetitions does not outgrow them. -/
theorem notesLength_iff {size : UInt16} (h : ProperChain size f.chain) :
    f.NotesLength ↔ f.issues.mismatch? = mismatch? f.entry.length f.chain := by
  have hnoted (recorded found : UInt16) : mismatch? f.entry.length f.chain = some (recorded, found) ↔
      recorded = f.entry.length ∧ found.toNat = f.chain.length ∧
        f.chain.length ≠ f.entry.length.toNat :=
    Allocation.mismatch?_eq_some_iff (length_lt_of_nodup h.isData h.nodup) recorded found
  constructor
  · intro hf
    refine Option.ext fun (recorded, found) ↦ ?_
    rw [hf, hnoted]
  · intro hsame recorded found
    rw [hsame, hnoted]

end SaveFile

/-! ## The chain by itself -/

namespace Proposal

variable {size : UInt16} {e : Entry} {chain : List UInt16}

/-- What is wrong with a block of a chain, behind the blocks that have been `seen`. -/
inductive Flaw (size : UInt16) (seen : UInt16 → Prop) (block : UInt16) : ChainDefect → Prop
  | outside (h : isDataBlock size block = false) : Flaw size seen block (.notDataBlock block)
  | again (h : isDataBlock size block = true) (hseen : seen block) :
      Flaw size seen block (.repeated block)

/-- A block that has just been seen is one of those in front. -/
theorem flaw_insert_iff {seen : BlockSet} {front : List UInt16} {b block : UInt16}
    {defect : ChainDefect} :
    Flaw size (fun x ↦ (seen.insert b).contains x = true ∨ x ∈ front) block defect ↔
      Flaw size (fun x ↦ seen.contains x = true ∨ x ∈ b :: front) block defect := by
  have hseen (x : UInt16) : (seen.insert b).contains x = true ∨ x ∈ front ↔
      seen.contains x = true ∨ x ∈ b :: front := by
    rw [BlockSet.contains_insert, Bool.or_eq_true, beq_iff_eq, List.mem_cons, or_assoc,
      @eq_comm _ b x]
  simp only [hseen]

/-- The first block with a flaw decides, and the blocks in front of it have none. -/
theorem flaw?_eq_some_iff {seen : BlockSet} {defect : ChainDefect} :
    flaw? size seen chain = some defect ↔ ∃ front block rest, chain = front ++ block :: rest ∧
      front.Nodup ∧ (∀ b ∈ front, isDataBlock size b = true ∧ seen.contains b = false) ∧
        Flaw size (fun b ↦ seen.contains b = true ∨ b ∈ front) block defect := by
  induction chain generalizing seen with
  | nil => simp [flaw?]
  | cons b rest ih =>
      rw [flaw?]
      constructor
      · intro h
        split_ifs at h with hdata hseen
        · cases h
          exact ⟨[], b, rest, rfl, .nil, by simp, .outside (by simpa using hdata)⟩
        · cases h
          exact ⟨[], b, rest, rfl, .nil, by simp, .again (by simpa using hdata) (.inl hseen)⟩
        · obtain ⟨front, block, back, rfl, hnodup, hfront, hflaw⟩ := ih.1 h
          simp only [BlockSet.contains_insert, Bool.or_eq_false_iff, beq_eq_false_iff_ne] at hfront
          refine ⟨b :: front, block, back, rfl, ?_, ?_, ?_⟩
          · exact List.nodup_cons.2 ⟨fun hb ↦ (hfront b hb).2.2 rfl, hnodup⟩
          · refine List.forall_mem_cons.2 ⟨⟨by simpa using hdata, by simpa using hseen⟩, ?_⟩
            exact fun x hx ↦ ⟨(hfront x hx).1, (hfront x hx).2.1⟩
          · exact flaw_insert_iff.1 hflaw
      · rintro ⟨front, block, back, hchain, hnodup, hfront, hflaw⟩
        -- the flaw is at the head of the chain, or it is one of the rest with the head seen
        rcases List.cons_eq_append_iff.1 hchain with ⟨rfl, hchain⟩ | ⟨front, rfl, rfl⟩
        · cases hchain
          cases hflaw with
          | outside h => simp [h]
          | again h hmem => simp [h, hmem.resolve_right List.not_mem_nil]
        · obtain ⟨hb, hnodup⟩ := List.nodup_cons.1 hnodup
          obtain ⟨⟨hdata, hseen⟩, hfront⟩ := List.forall_mem_cons.1 hfront
          rw [hdata, hseen]
          refine ih.2 ⟨front, block, back, rfl, hnodup, fun x hx ↦ ?_, flaw_insert_iff.2 hflaw⟩
          have hne : b ≠ x := fun e ↦ hb (e ▸ hx)
          simp [hfront x hx, hne]

theorem flaw?_empty_eq_some_iff {defect : ChainDefect} :
    flaw? size .empty chain = some defect ↔ ∃ front block rest, chain = front ++ block :: rest ∧
      front.Nodup ∧ (∀ b ∈ front, isDataBlock size b = true) ∧ Flaw size (· ∈ front) block defect := by
  rw [flaw?_eq_some_iff]
  simp only [BlockSet.contains_empty, Bool.false_eq_true, false_or, and_true]

theorem Flaw.not_proper {front rest : List UInt16} {block : UInt16} {defect : ChainDefect}
    (h : Flaw size (· ∈ front) block defect) : ¬ ProperChain size (front ++ block :: rest) := by
  intro hproper
  cases h with
  | outside h => simp [hproper.isData block (by simp)] at h
  | again _ hmem => exact (List.nodup_append.1 hproper.nodup).2.2 block hmem block (by simp) rfl

/-- A chain that has blocks is proper unless it has a flaw. -/
theorem flaw?_eq_none_iff (h : chain ≠ []) :
    flaw? size .empty chain = none ↔ ProperChain size chain := by
  constructor
  · intro hflaw
    obtain ⟨hnodup, hdata⟩ := flaw?_eq_none hflaw
    exact ⟨h, hnodup, fun b hb ↦ (hdata b hb).1⟩
  · intro hproper
    refine Option.eq_none_iff_forall_ne_some.2 fun defect hflaw ↦ ?_
    obtain ⟨front, block, rest, rfl, -, -, hflaw⟩ := flaw?_empty_eq_some_iff.1 hflaw
    exact hflaw.not_proper hproper

/-- The proposal of a chain that the caller has chosen, with a note if it is not as long as the entry
says. -/
def chosen (e : Entry) (chain : List UInt16) : Proposal :=
  ⟨chain, .explicit, { mismatch? := mismatch? e.length chain }⟩

/-- What is made of a chain that the caller has chosen for an entry, before other files are looked
at. -/
inductive Chosen (size : UInt16) (e : Entry) (chain : List UInt16) : Except Failure Proposal → Prop
  | unused (h : e.isUnused = true) :
      Chosen size e chain (.error (.invalidArgument "directory entry is unused"))
  | empty (h : e.isUnused = false) (hchain : chain = []) :
      Chosen size e chain (.error (.corruptChain e.firstBlock .emptyChain))
  | flawed {first block : UInt16} {front rest : List UInt16} {defect : ChainDefect}
      (h : e.isUnused = false) (hfirst : chain.head? = some first)
      (hchain : chain = front ++ block :: rest) (hnodup : front.Nodup)
      (hdata : ∀ b ∈ front, isDataBlock size b = true) (hflaw : Flaw size (· ∈ front) block defect) :
      Chosen size e chain (.error (.corruptChain first defect))
  | sound (h : e.isUnused = false) (hproper : ProperChain size chain) :
      Chosen size e chain (.ok (chosen e chain))

theorem ofChain_of_isUnused (h : e.isUnused = true) :
    ofChain size e chain = .error (.invalidArgument "directory entry is unused") := by
  unfold ofChain checkEntry
  rw [if_pos h, error_bind]

theorem ofChain_nil (h : e.isUnused = false) :
    ofChain size e [] = .error (.corruptChain e.firstBlock .emptyChain) := by
  unfold ofChain checkEntry
  rw [h]
  rfl

theorem ofChain_of_used (h : e.isUnused = false) {first : UInt16}
    (hfirst : chain.head? = some first) : ofChain size e chain =
    match flaw? size .empty chain with
      | some defect => .error (.corruptChain first defect)
      | none => .ok (chosen e chain) := by
  obtain ⟨rest, rfl⟩ := List.head?_eq_some_iff.1 hfirst
  rw [ofChain, checkEntry, h]
  simp only [Bool.false_eq_true, if_false, ok_bind]
  cases flaw? size .empty (first :: rest) <;> rfl

theorem ofChain_eq_iff {r : Except Failure Proposal} :
    ofChain size e chain = r ↔ Chosen size e chain r := by
  constructor
  · rintro rfl
    cases h : e.isUnused with
    | true =>
        rw [ofChain_of_isUnused h]
        exact .unused h
    | false =>
        cases hfirst : chain.head? with
        | none =>
            obtain rfl := List.head?_eq_none_iff.1 hfirst
            rw [ofChain_nil h]
            exact .empty h rfl
        | some first =>
            have hne : chain ≠ [] := List.ne_nil_of_mem (List.mem_of_head? hfirst)
            rw [ofChain_of_used h hfirst]
            cases hflaw : flaw? size .empty chain with
            | none => exact .sound h ((flaw?_eq_none_iff hne).1 hflaw)
            | some defect =>
                obtain ⟨front, block, rest, hchain, hnodup, hdata, hflaw⟩ :=
                  flaw?_empty_eq_some_iff.1 hflaw
                exact .flawed h hfirst hchain hnodup hdata hflaw
  · intro hr
    cases hr with
    | unused h => exact ofChain_of_isUnused h
    | empty h hchain => rw [hchain, ofChain_nil h]
    | flawed h hfirst hchain hnodup hdata hflaw =>
        rw [ofChain_of_used h hfirst,
          flaw?_empty_eq_some_iff.2 ⟨_, _, _, hchain, hnodup, hdata, hflaw⟩]
    | sound h hproper =>
        obtain ⟨first, hfirst⟩ := Option.ne_none_iff_exists'.1
          (fun hnone ↦ hproper.ne_nil (List.head?_eq_none_iff.1 hnone))
        rw [ofChain_of_used h hfirst, (flaw?_eq_none_iff hproper.ne_nil).2 hproper]

theorem Chosen.invalidArgument_iff {failure : Failure} (h : Chosen size e chain (.error failure)) :
    (∃ reason, failure = .invalidArgument reason) ↔ e.isUnused = true := by
  cases h with
  | unused h => exact ⟨fun _ ↦ h, fun _ ↦ ⟨_, rfl⟩⟩
  | empty h _ => simp [h]
  | flawed h _ _ _ _ _ => simp [h]

/-- Without a proposal, the chain is at fault exactly if the entry is used. -/
theorem Chosen.corruptChain_iff {failure : Failure} (h : Chosen size e chain (.error failure)) :
    (∃ first defect, failure = .corruptChain first defect) ↔ e.isUnused = false := by
  cases h with
  | unused h => simp [h]
  | empty h _ => exact ⟨fun _ ↦ h, fun _ ↦ ⟨_, _, rfl⟩⟩
  | flawed h _ _ _ _ _ => exact ⟨fun _ ↦ h, fun _ ↦ ⟨_, _, rfl⟩⟩

/-- Without a proposal, the entry is unused or the chain is not a proper one. -/
theorem Chosen.not_proper {failure : Failure} (h : Chosen size e chain (.error failure))
    (hused : e.isUnused = false) : ¬ ProperChain size chain := by
  cases h with
  | unused h => simp [h] at hused
  | empty _ hchain => exact fun hproper ↦ hproper.ne_nil hchain
  | flawed _ _ hchain _ _ hflaw =>
      rw [hchain]
      exact hflaw.not_proper

end Proposal

/-! ## The chain among other files -/

namespace Card

variable {c : Card} {e : Entry} {chain : List UInt16}

/-- A chain that can be chosen for an entry. -/
structure Fits (c : Card) (e : Entry) (chain : List UInt16) : Prop where
  used : e.isUnused = false
  proper : ProperChain c.size chain
  unowned : ∀ b ∈ chain, ¬ c.Owns b

/-- What becomes of an entry with a chain that the caller has chosen. -/
inductive ChainVerdict (c : Card) (e : Entry) (chain : List UInt16) : Outcome Nat → Prop
  | unfit {failure : Failure} (h : Proposal.Chosen c.size e chain (.error failure)) :
      ChainVerdict c e chain ⟨.error failure, c, []⟩
  | accepted (h : c.Fits e chain) : ChainVerdict c e chain
      ⟨.ok c.files.length, c.extend [c.lostFile e (.chosen e chain)],
        Event.insertion c.files.length c.files.length⟩
  | taken {front rest : List UInt16} {block : UInt16} (h : e.isUnused = false)
      (hproper : ProperChain c.size chain) (hchain : chain = front ++ block :: rest)
      (hfront : ∀ b ∈ front, ¬ c.Owns b) (hblock : c.Owns block) :
      ChainVerdict c e chain ⟨.error (.overlap block), c, []⟩

theorem Consistent.addLostChain_eq_iff (h : c.Consistent) {o : Outcome Nat} :
    c.addLostChain e chain = o ↔ c.ChainVerdict e chain o := by
  constructor
  · rintro rfl
    rw [addLostChain]
    cases hchosen : Proposal.ofChain c.size e chain with
    | error failure => exact .unfit (Proposal.ofChain_eq_iff.1 hchosen)
    | ok p =>
        cases Proposal.ofChain_eq_iff.1 hchosen with
        | sound hused hproper =>
            rw [ok_bind]
            cases haccept : c.accept (.ofList c.lostBlocks) e (.chosen e chain) with
            | ok f =>
                obtain ⟨hfree, rfl⟩ := (h.accept_lostBlocks_eq_ok hproper).1 haccept
                exact .accepted ⟨hused, hproper, hfree⟩
            | error failure =>
                obtain ⟨front, block, rest, hchain, hfront, hblock, rfl⟩ :=
                  (h.accept_lostBlocks_eq_error hproper).1 haccept
                exact .taken hused hproper hchain hfront hblock
  · intro ho
    cases ho with
    | unfit hchosen =>
        rw [addLostChain, Proposal.ofChain_eq_iff.2 hchosen]
        rfl
    | accepted hfits =>
        rw [addLostChain, Proposal.ofChain_eq_iff.2 (.sound hfits.used hfits.proper), ok_bind,
          (h.accept_lostBlocks_eq_ok hfits.proper).2 ⟨hfits.unowned, rfl⟩]
        rfl
    | taken hused hproper hchain hfront hblock =>
        rw [addLostChain, Proposal.ofChain_eq_iff.2 (.sound hused hproper), ok_bind,
          (h.accept_lostBlocks_eq_error hproper).2 ⟨_, _, _, hchain, hfront, hblock, rfl⟩]
        rfl

section Result

variable {o : Outcome Nat}

theorem ChainVerdict.ok_iff (h : c.ChainVerdict e chain o) :
    (∃ index, o.result = .ok index) ↔ c.Fits e chain := by
  cases h with
  | unfit hchosen =>
      simpa using fun hfits : c.Fits e chain ↦ hchosen.not_proper hfits.used hfits.proper
  | accepted hfits => exact ⟨fun _ ↦ hfits, fun _ ↦ ⟨_, rfl⟩⟩
  | taken _ _ hchain _ hblock =>
      simpa using fun hfits : c.Fits e chain ↦ hfits.unowned _ (by simp [hchain]) hblock

theorem ChainVerdict.invalidArgument_iff (h : c.ChainVerdict e chain o) :
    (∃ reason, o.result = .error (.invalidArgument reason)) ↔ e.isUnused = true := by
  cases h with
  | unfit hchosen => simpa using hchosen.invalidArgument_iff
  | accepted hfits => simp [hfits.used]
  | taken hused _ _ _ _ => simp [hused]

theorem ChainVerdict.corruptChain_iff (h : c.ChainVerdict e chain o) :
    (∃ first defect, o.result = .error (.corruptChain first defect)) ↔
      e.isUnused = false ∧ ¬ ProperChain c.size chain := by
  cases h with
  | unfit hchosen =>
      rw [and_iff_left_of_imp hchosen.not_proper]
      simpa using hchosen.corruptChain_iff
  | accepted hfits => simp [hfits.proper]
  | taken _ hproper _ _ _ => simp [hproper]

theorem ChainVerdict.of_overlap (h : c.ChainVerdict e chain o) {block : UInt16}
    (ho : o.result = .error (.overlap block)) :
    e.isUnused = false ∧ ProperChain c.size chain ∧ ∃ front rest, chain = front ++ block :: rest ∧
      (∀ b ∈ front, ¬ c.Owns b) ∧ c.Owns block := by
  cases h with
  | unfit hchosen =>
      cases ho
      cases hchosen
  | accepted hfits => cases ho
  | taken hused hproper hchain hfront hblock =>
      cases ho
      exact ⟨hused, hproper, _, _, hchain, hfront, hblock⟩

end Result

/-- On a card with which anything may have been done, a chain that the caller has chosen is taken up
exactly if the entry is used, the chain is a proper one, and no file on the card has a block of it. Then
the last file has exactly this chain, and says so if it is not as long as the entry records. Otherwise
nothing changes. An unused entry is refused as such, whatever the chain. A chain that is not proper is
refused as such even if other files have blocks of it, and a proper one for the first block that another
file has. -/
theorem addLostChain_verdict (h : c.Reachable) (e : Entry) (chain : List UInt16) :
    (∀ o, c.addLostChain e chain = o ↔ c.ChainVerdict e chain o) ∧
    ((∃ index, (c.addLostChain e chain).result = .ok index) ↔ c.Fits e chain) ∧
    (c.Fits e chain → ∃ f, (c.addLostChain e chain).card.files = c.files ++ [f] ∧
      f.entry = e ∧ f.chain = chain ∧ f.isLost = true ∧ f.NotesLength) ∧
    ((∃ reason, (c.addLostChain e chain).result = .error (.invalidArgument reason)) ↔
      e.isUnused = true) ∧
    ((∃ first defect, (c.addLostChain e chain).result = .error (.corruptChain first defect)) ↔
      e.isUnused = false ∧ ¬ ProperChain c.size chain) ∧
    ∀ block, (c.addLostChain e chain).result = .error (.overlap block) ↔
      e.isUnused = false ∧ ProperChain c.size chain ∧ ∃ front rest, chain = front ++ block :: rest ∧
        (∀ b ∈ front, ¬ c.Owns b) ∧ c.Owns block := by
  have hiff {o : Outcome Nat} : c.addLostChain e chain = o ↔ c.ChainVerdict e chain o :=
    h.consistent.addLostChain_eq_iff
  have hverdict : c.ChainVerdict e chain (c.addLostChain e chain) := hiff.1 rfl
  refine ⟨fun o ↦ hiff, hverdict.ok_iff, fun hfits ↦ ?_, hverdict.invalidArgument_iff,
    hverdict.corruptChain_iff, fun block ↦ ⟨hverdict.of_overlap, ?_⟩⟩
  · rw [hiff.2 (.accepted hfits)]
    exact ⟨_, rfl, rfl, rfl, rfl, (SaveFile.notesLength_iff hfits.proper).2 rfl⟩
  · rintro ⟨hused, hproper, front, rest, hchain, hfront, hblock⟩
    rw [hiff.2 (.taken hused hproper hchain hfront hblock)]

theorem Consistent.addSightings_singleton (h : c.Consistent) {s : Sighting} {p : Proposal}
    (hp : c.proposeSighting s = .ok p) (hfree : ∀ b ∈ p.chain, ¬ c.Owns b) :
    c.addSightings [s] = ⟨.ok [c.files.length], c.extend [c.lostFile s.entry p],
      Event.insertion c.files.length c.files.length⟩ := by
  have htaken : c.salvageSighting (.ofList c.lostBlocks) s = .ok (c.lostFile s.entry p) :=
    salvageSighting_eq_ok.2
      ⟨p, hp, (h.isFree_iff_not_owns (proposeSighting_proper hp).isData).2 hfree, rfl⟩
  rw [addSightings, salvageAll_cons_ok htaken]
  rfl

/-- On a card of eight blocks with a damaged file of the blocks 5 and 6, of which 6 is marked as free, an
entry that begins at a free block can have block 7 as a file in one piece. -/
theorem exists_opened_halfErased : ∃ sums image c,
    Image.write ⟨.fill (8 * blockSize) 0, none⟩ halfErased = .ok (sums, image) ∧
      ofImage image = .ok c ∧ c.size = 8 ∧ c.lostFiles = [] ∧ c.files.length = 1 ∧
      (∀ b, c.Owns b ↔ b = 5 ∨ b = 6) ∧
      c.tables.allocation.walk 5 2 c.size = .ok ⟨[5, 6], some (.linkToFree 6), none⟩ ∧
      ∀ first len, first = 6 ∨ first = 7 → Proposal.Proposed c.tables.allocation c.size
        (entryOf first len) 7 8 (.ok ⟨[7], .contiguous, {}⟩) := by
  obtain ⟨sums, image, c, f, hwrite, hopen, hsize, -, hfree, hwalk, hfiles, hchain, -⟩ :=
    exists_halfErased
  refine ⟨sums, image, c, hwrite, hopen, hsize, lostFiles_ofImage hopen, ?_, fun b ↦ ?_,
    by rw [hsize, hwalk], fun first len hfirst ↦ ?_⟩
  · rw [files_ofImage hopen, hfiles]
    rfl
  · simp [Owns, files_ofImage hopen, hfiles, hchain]
  · have hmem : first ∈ c.tables.allocation.freeBlocks 8 := by simpa [hfree] using hfirst
    exact .of_free rfl (Allocation.mem_freeBlocks.1 hmem).2 (by rw [hsize]; decide)

/-- On a card of eight blocks with a file of the blocks 5 and 6, block 7 can be chosen for an entry
that asks for two blocks. A repeated block is noticed before a block of the other file, and of the
blocks of the other file the first one in the chain is named. -/
theorem addLostChain_verdict_halfErased : ∃ sums image c,
    Image.write ⟨.fill (8 * blockSize) 0, none⟩ halfErased = .ok (sums, image) ∧
      ofImage image = .ok c ∧ c.Reachable ∧ c.Fits (entryOf 7 2) [7] ∧
      (∃ f, (c.addLostChain (entryOf 7 2) [7]).card.files = c.files ++ [f] ∧
        f.chain = [7] ∧ f.NotesLength) ∧
      (c.addLostChain (entryOf 7 2) [5, 7, 7]).result = .error (.corruptChain 5 (.repeated 7)) ∧
      (c.addLostChain (entryOf 7 2) [7, 6, 5]).result = .error (.overlap 6) ∧
      (c.addLostChain .unused []).result =
        .error (.invalidArgument "directory entry is unused") := by
  obtain ⟨sums, image, c, hwrite, hopen, hsize, -, -, howns, -⟩ := exists_opened_halfErased
  have hreach : c.Reachable := ⟨image, c, [], hopen, rfl⟩
  have hdata {chain : List UInt16} (h : chain.all (isDataBlock 8) = true) :
      ∀ b ∈ chain, isDataBlock c.size b = true := by
    rw [hsize]
    exact List.all_eq_true.1 h
  have hfits : c.Fits (entryOf 7 2) [7] :=
    ⟨rfl, ⟨by simp, by simp, hdata rfl⟩, by simp [howns]⟩
  obtain ⟨-, -, htaken, -⟩ := addLostChain_verdict hreach (entryOf 7 2) [7]
  obtain ⟨g, hg, -, hgchain, -, hnotes⟩ := htaken hfits
  refine ⟨sums, image, c, hwrite, hopen, hreach, hfits, ⟨g, hg, hgchain, hnotes⟩, ?_, ?_, ?_⟩
  · have hflaw : Proposal.Flaw c.size (· ∈ [5, 7]) 7 (.repeated 7) :=
      .again (by rw [hsize]; rfl) (by simp)
    have hflawed : Proposal.Chosen c.size (entryOf 7 2) [5, 7, 7]
        (.error (.corruptChain 5 (.repeated 7))) :=
      .flawed rfl rfl rfl (by simp) (hdata rfl) hflaw
    rw [((addLostChain_verdict hreach (entryOf 7 2) [5, 7, 7]).1 _).2 (.unfit hflawed)]
  · obtain ⟨-, -, -, -, -, hoverlap⟩ := addLostChain_verdict hreach (entryOf 7 2) [7, 6, 5]
    exact (hoverlap 6).2 ⟨rfl, ⟨by simp, by simp, hdata rfl⟩, [7], [5], rfl, by simp [howns],
      by simp [howns]⟩
  · rw [((addLostChain_verdict hreach .unused []).1 _).2 (.unfit (.unused (by decide)))]

end Card
end MemoryCard
