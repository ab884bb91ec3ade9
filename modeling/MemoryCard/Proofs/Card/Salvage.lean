import MemoryCard.Card.Salvage
import MemoryCard.Proofs.Walk
import MemoryCard.Proofs.Result
import Mathlib.Data.List.Basic

/-! # What taking up lost files can give

Whichever way a chain is found for a lost file, it is a proper chain, and the choice does not look
at the blocks that are taken. Those decide only whether the file is accepted: it is refused for the
first block of its chain that is not free. A batch of lost files reserves the blocks of each accepted
file before it looks at the next sighting, so that its files have no block in common.
-/

namespace MemoryCard

/-! ## Proposed chains -/

namespace Proposal

variable {allocation : Allocation} {size start stop : UInt16} {e : Entry} {p : Proposal}

/-- The chain for an entry, where a file in one piece would take up the blocks from `start` to the one
before `stop`. The links of the table are preferred if they lead to the end of the file, then come the
blocks in a row, and last what is there of a damaged chain. -/
inductive Proposed (allocation : Allocation) (size : UInt16) (e : Entry) (start stop : UInt16) :
    Except Failure Proposal → Prop
  | unused (h : e.isUnused = true) : Proposed allocation size e start stop
      (.error (.invalidArgument "directory entry is unused"))
  | linked {w : Walk} (h : e.isUnused = false)
      (hwalk : allocation.walk e.firstBlock e.length size = .ok w) (hsound : w.defect? = none) :
      Proposed allocation size e start stop
        (.ok ⟨w.blocks, .allocation, { mismatch? := w.mismatch? }⟩)
  | inOnePiece (h : e.isUnused = false)
      (hwalk : ∀ w, allocation.walk e.firstBlock e.length size = .ok w → w.defect? ≠ none)
      (hrow : IsRow size start stop) : Proposed allocation size e start stop
        (.ok ⟨blockRow start.toNat (stop.toNat - start.toNat), .contiguous, {}⟩)
  | damaged {w : Walk} {defect : ChainDefect} (h : e.isUnused = false)
      (hrow : ¬ IsRow size start stop)
      (hwalk : allocation.walk e.firstBlock e.length size = .ok w)
      (hdefect : w.defect? = some defect) : Proposed allocation size e start stop
        (.ok ⟨w.blocks, .allocation, { defect? := some defect, mismatch? := w.mismatch? }⟩)
  | nowhere (h : e.isUnused = false) (hrow : ¬ IsRow size start stop)
      (hwalk : ∀ w, allocation.walk e.firstBlock e.length size ≠ .ok w) :
      Proposed allocation size e start stop (.error (.corruptChain start
        (if stop ≤ start then .zeroLength else .beyondCard start stop.toNat size)))

/-- What is proposed for a used entry, by what the walk has found and whether there is a row. -/
theorem ofEntry_of_used (h : e.isUnused = false) : ofEntry allocation size e start stop =
    match allocation.walk e.firstBlock e.length size with
    | .ok w => .ok (if w.defect? ≠ none ∧ IsRow size start stop then
        ⟨blockRow start.toNat (stop.toNat - start.toNat), .contiguous, {}⟩ else ofWalk w)
    | .error _ => if IsRow size start stop then
        .ok ⟨blockRow start.toNat (stop.toNat - start.toNat), .contiguous, {}⟩
      else .error (.corruptChain start
        (if stop ≤ start then .zeroLength else .beyondCard start stop.toNat size)) := by
  rw [ofEntry, checkEntry, h, contiguous_eq_ite]
  cases hwalk : allocation.walk e.firstBlock e.length size with
  | error failure =>
      by_cases hrow : IsRow size start stop
      · simp only [if_pos hrow]
        rfl
      · simp only [if_neg hrow]
        rfl
  | ok w =>
      have hne := (Allocation.walk_proper hwalk).ne_nil
      by_cases hrow : IsRow size start stop
      · cases hdefect : w.defect? with
        | none => simp [Walk.isSound, hdefect, hrow]
        | some defect => simp [Walk.isSound, hdefect, hrow]
      · simp [hne, hrow]

theorem ofEntry_eq_iff {r : Except Failure Proposal} :
    ofEntry allocation size e start stop = r ↔ Proposed allocation size e start stop r := by
  constructor
  · rintro rfl
    cases h : e.isUnused with
    | true =>
        rw [ofEntry, checkEntry, if_pos h]
        exact .unused h
    | false =>
        rw [ofEntry_of_used h]
        cases hwalk : allocation.walk e.firstBlock e.length size with
        | error failure =>
            have hnone : ∀ w, allocation.walk e.firstBlock e.length size ≠ .ok w := by simp [hwalk]
            by_cases hrow : IsRow size start stop
            · simpa only [if_pos hrow] using .inOnePiece h (fun w hw ↦ absurd hw (hnone w)) hrow
            · simpa only [if_neg hrow] using .nowhere h hrow hnone
        | ok w =>
            cases hdefect : w.defect? with
            | none => simpa [ofWalk, Issues.ofWalk, hdefect] using .linked h hwalk hdefect
            | some defect =>
                have hunsound : ∀ w', allocation.walk e.firstBlock e.length size = .ok w' →
                    w'.defect? ≠ none := fun w' hw' ↦ by
                  cases hwalk.symm.trans hw'
                  simp [hdefect]
                by_cases hrow : IsRow size start stop
                · simpa [hdefect, hrow] using .inOnePiece h hunsound hrow
                · simpa [hdefect, hrow, ofWalk, Issues.ofWalk] using .damaged h hrow hwalk hdefect
  · intro hr
    cases hr with
    | unused h =>
        rw [ofEntry, checkEntry, if_pos h]
        rfl
    | linked h hwalk hsound => simp [ofEntry_of_used h, hwalk, hsound, ofWalk, Issues.ofWalk]
    | inOnePiece h hwalk hrow =>
        rw [ofEntry_of_used h]
        cases hw : allocation.walk e.firstBlock e.length size with
        | error failure => simp only [if_pos hrow]
        | ok w => simp only [if_pos (And.intro (hwalk w hw) hrow)]
    | damaged h hrow hwalk hdefect =>
        simp [ofEntry_of_used h, hwalk, hrow, hdefect, ofWalk, Issues.ofWalk]
    | nowhere h hrow hwalk =>
        rw [ofEntry_of_used h]
        cases hw : allocation.walk e.firstBlock e.length size with
        | error failure => simp only [if_neg hrow]
        | ok w => exact absurd hw (hwalk w)

/-- If the first block of an entry is free, there are no links to follow. -/
theorem Proposed.of_free (h : e.isUnused = false)
    (hfree : allocation.link? e.firstBlock = some Allocation.freeLink)
    (hrow : IsRow size start stop) : Proposed allocation size e start stop
      (.ok ⟨blockRow start.toNat (stop.toNat - start.toNat), .contiguous, {}⟩) :=
  .inOnePiece h (fun _ hwalk ↦ absurd hfree (Allocation.walk_eq_ok hwalk).2.1) hrow

theorem Proposed.isUnused_eq_false (h : Proposed allocation size e start stop (.ok p)) :
    e.isUnused = false := by
  cases h <;> assumption

/-- Only an unused entry is at fault itself. -/
theorem Proposed.invalidArgument_iff {failure : Failure}
    (h : Proposed allocation size e start stop (.error failure)) :
    (∃ reason, failure = .invalidArgument reason) ↔ e.isUnused = true := by
  cases h with
  | unused h => exact ⟨fun _ ↦ h, fun _ ↦ ⟨_, rfl⟩⟩
  | nowhere h hrow hwalk => simp [h]

theorem ofEntry_proper (h : ofEntry allocation size e start stop = .ok p) :
    ProperChain size p.chain := by
  cases ofEntry_eq_iff.1 h with
  | linked _ hwalk _ => exact Allocation.walk_proper hwalk
  | inOnePiece _ _ hrow => exact hrow.proper
  | damaged _ _ hwalk _ => exact Allocation.walk_proper hwalk

/-- A chain without a flaw has data blocks only, none of them twice and none seen before. -/
theorem flaw?_eq_none {seen : BlockSet} {chain : List UInt16} (h : flaw? size seen chain = none) :
    chain.Nodup ∧ ∀ b ∈ chain, isDataBlock size b = true ∧ seen.contains b = false := by
  induction chain generalizing seen with
  | nil => simp
  | cons b rest ih =>
      unfold flaw? at h
      split_ifs at h with hdata hseen
      obtain ⟨hnodup, hrest⟩ := ih h
      simp only [BlockSet.contains_insert, Bool.or_eq_false_iff, beq_eq_false_iff_ne] at hrest
      refine ⟨List.nodup_cons.2 ⟨fun hb ↦ (hrest b hb).2.2 rfl, hnodup⟩, ?_⟩
      rintro x (_ | ⟨_, hx⟩)
      · exact ⟨by simpa using hdata, by simpa using hseen⟩
      · exact ⟨(hrest x hx).1, (hrest x hx).2.1⟩

theorem ofChain_proper {chain : List UInt16} (h : ofChain size e chain = .ok p) :
    ProperChain size p.chain := by
  unfold ofChain checkEntry at h
  cases hused : e.isUnused with
  | true => simp [hused] at h
  | false =>
      simp only [hused, Bool.false_eq_true, if_false, ok_bind] at h
      split at h
      · cases h
      · rename_i first rest
        split at h
        · cases h
        · rename_i hflaw
          cases h
          obtain ⟨hnodup, hdata⟩ := flaw?_eq_none hflaw
          exact ⟨List.cons_ne_nil _ _, hnodup, fun b hb ↦ (hdata b hb).1⟩

end Proposal

/-! ## Accepted chains -/

/-- The blocks that the file of a sighting takes up if it lies in one piece, the first and the one after
the last. -/
def Sighting.bounds (s : Sighting) : UInt16 × UInt16 :=
  if s.start < s.stop then (s.start, s.stop) else (s.entry.firstBlock, s.entry.stopBlock)

theorem Sighting.bounds_of (e : Entry) (offset : Nat) (source : Source) :
    (Sighting.of e offset source).bounds = (e.firstBlock, e.stopBlock) := ite_self _

namespace Card

variable {c : Card}

/-- No block of the chain is claimed by a regular file or reserved. -/
def IsFree (c : Card) (reserved : BlockSet) (chain : List UInt16) : Prop :=
  ∀ b ∈ chain, c.usage.count b = 0 ∧ reserved.contains b = false

/-- The lost file of an entry with a chain that has been accepted. -/
def lostFile (c : Card) (e : Entry) (p : Proposal) : SaveFile where
  entry := e
  chain := p.chain
  origin := .lost p.basis (e.isCredible c.size)
  issues := p.issues
  charset := c.charset.forRegion e.region

theorem overlap?_eq_none {reserved : BlockSet} {chain : List UInt16} :
    c.overlap? reserved chain = none ↔ c.IsFree reserved chain := by
  simp only [overlap?, List.find?_eq_none, IsFree, Bool.or_eq_true, not_or, decide_eq_true_eq,
    UInt8.pos_iff_ne_zero, not_not, Bool.not_eq_true]

theorem accept_eq_ok {reserved : BlockSet} {e : Entry} {p : Proposal} {f : SaveFile} :
    c.accept reserved e p = .ok f ↔ c.IsFree reserved p.chain ∧ f = c.lostFile e p := by
  rw [← overlap?_eq_none, accept]
  cases c.overlap? reserved p.chain with
  | none => simp [lostFile, eq_comm]
  | some b => simp

/-- What stands in the way of a chain is its first block that is not free. -/
theorem overlap?_eq_some {reserved : BlockSet} {chain : List UInt16} {b : UInt16} :
    c.overlap? reserved chain = some b ↔ ∃ front rest, chain = front ++ b :: rest ∧
      c.IsFree reserved front ∧ ¬ c.IsFree reserved [b] := by
  simp only [← overlap?_eq_none, overlap?, List.find?_eq_some_iff_append, List.find?_eq_none,
    List.mem_singleton, forall_eq, Bool.not_eq_true', Bool.not_eq_true, Bool.not_eq_false]
  constructor
  · rintro ⟨hb, front, rest, hchain, hfront⟩
    exact ⟨front, rest, hchain, hfront, hb⟩
  · rintro ⟨front, rest, hchain, hfront, hb⟩
    exact ⟨hb, front, rest, hchain, hfront⟩

/-- A chain is refused for a block in its way, and for no other reason. -/
theorem accept_eq_error {reserved : BlockSet} {e : Entry} {p : Proposal} {failure : Failure} :
    c.accept reserved e p = .error failure ↔
      ∃ b, c.overlap? reserved p.chain = some b ∧ failure = .overlap b := by
  rw [accept]
  cases c.overlap? reserved p.chain <;> simp [eq_comm]

/-- The chain for a sighting, with the blocks that it names if it names any. -/
def proposeSighting (c : Card) (s : Sighting) : Except Failure Proposal :=
  if s.start < s.stop then c.propose s.entry s.start s.stop
  else c.propose s.entry s.entry.firstBlock s.entry.stopBlock

/-- What is reserved has no influence on the chain that is proposed for a sighting. -/
theorem salvageSighting_eq (c : Card) (reserved : BlockSet) (s : Sighting) :
    c.salvageSighting reserved s = c.proposeSighting s >>= c.accept reserved s.entry := by
  unfold salvageSighting proposeSighting
  split <;> rfl

theorem proposeSighting_eq (c : Card) (s : Sighting) :
    c.proposeSighting s = c.propose s.entry s.bounds.1 s.bounds.2 := by
  unfold proposeSighting Sighting.bounds
  split <;> rfl

theorem proposeSighting_eq_iff {s : Sighting} {r : Except Failure Proposal} :
    c.proposeSighting s = r ↔ Proposal.Proposed c.tables.allocation c.size s.entry
      s.bounds.1 s.bounds.2 r := by
  rw [proposeSighting_eq, propose, Proposal.ofEntry_eq_iff]

theorem proposeSighting_proper {s : Sighting} {p : Proposal} (h : c.proposeSighting s = .ok p) :
    ProperChain c.size p.chain := by
  rw [proposeSighting_eq] at h
  exact Proposal.ofEntry_proper h

theorem salvageSighting_eq_ok {s : Sighting} {reserved : BlockSet} {f : SaveFile} :
    c.salvageSighting reserved s = .ok f ↔ ∃ p, c.proposeSighting s = .ok p ∧
      c.IsFree reserved p.chain ∧ f = c.lostFile s.entry p := by
  rw [salvageSighting_eq, bind_eq_ok]
  simp only [accept_eq_ok]

section SalvageAll

variable {s : Sighting} {sightings : List Sighting} {reserved : BlockSet}

theorem salvageAll_cons_error {failure : Failure}
    (h : c.salvageSighting reserved s = .error failure) :
    c.salvageAll reserved (s :: sightings) = c.salvageAll reserved sightings := by
  rw [salvageAll, h]

theorem salvageAll_cons_ok {f : SaveFile} (h : c.salvageSighting reserved s = .ok f) :
    c.salvageAll reserved (s :: sightings) =
      f :: c.salvageAll (reserved.insertAll f.chain) sightings := by
  rw [salvageAll, h]

/-- A file that is taken up is made of a sighting with the chain that is proposed for it. -/
theorem mem_salvageAll {f : SaveFile} (h : f ∈ c.salvageAll reserved sightings) :
    ∃ s ∈ sightings, ∃ p, c.proposeSighting s = .ok p ∧ f = c.lostFile s.entry p := by
  induction sightings generalizing reserved with
  | nil => cases h
  | cons s rest ih =>
      rw [List.exists_mem_cons_iff]
      cases htry : c.salvageSighting reserved s with
      | error failure =>
          rw [salvageAll_cons_error htry] at h
          exact .inr (ih h)
      | ok g =>
          rw [salvageAll_cons_ok htry] at h
          rcases List.mem_cons.1 h with rfl | h
          · obtain ⟨p, hp, -, hfile⟩ := salvageSighting_eq_ok.1 htry
            exact .inl ⟨p, hp, hfile⟩
          · exact .inr (ih h)

end SalvageAll

/-! ## Recovered files -/

/-- A file that was taken up as a lost one, at a time when the regular files were those of now. -/
structure IsRecovered (c : Card) (f : SaveFile) : Prop where
  origin : ∃ basis credible, f.origin = .lost basis credible
  proper : ProperChain c.size f.chain
  unclaimed : ∀ b ∈ f.chain, c.usage.count b = 0

/-- Recovered files that have no block in common with each other and touch nothing reserved. -/
structure IsBatch (c : Card) (reserved : BlockSet) (files : List SaveFile) : Prop where
  recovered : ∀ f ∈ files, c.IsRecovered f
  unreserved : ∀ f ∈ files, ∀ b ∈ f.chain, reserved.contains b = false
  disjoint : files.Pairwise fun f g ↦ f.chain.Disjoint g.chain

theorem lostFile_isRecovered {e : Entry} {p : Proposal} {reserved : BlockSet}
    (hproper : ProperChain c.size p.chain) (hfree : c.IsFree reserved p.chain) :
    c.IsRecovered (c.lostFile e p) :=
  ⟨⟨_, _, rfl⟩, hproper, fun b hb ↦ (hfree b hb).1⟩

theorem IsBatch.nil (reserved : BlockSet) : c.IsBatch reserved [] :=
  ⟨by simp, by simp, .nil⟩

theorem IsBatch.cons {reserved : BlockSet} {e : Entry} {p : Proposal} {rest : List SaveFile}
    (hproper : ProperChain c.size p.chain) (hfree : c.IsFree reserved p.chain)
    (h : c.IsBatch (reserved.insertAll p.chain) rest) :
    c.IsBatch reserved (c.lostFile e p :: rest) := by
  have hfresh : ∀ f ∈ rest, ∀ b ∈ f.chain, reserved.contains b = false ∧ b ∉ p.chain := by
    intro f hf b hb
    simpa using h.unreserved f hf b hb
  refine ⟨?_, ?_, List.pairwise_cons.2 ⟨fun f hf b hb hb' ↦ (hfresh f hf b hb').2 hb, h.disjoint⟩⟩
  · exact List.forall_mem_cons.2 ⟨lostFile_isRecovered hproper hfree, h.recovered⟩
  · exact List.forall_mem_cons.2
      ⟨fun b hb ↦ (hfree b hb).2, fun f hf b hb ↦ (hfresh f hf b hb).1⟩

theorem IsBatch.singleton {reserved : BlockSet} {e : Entry} {p : Proposal}
    (hproper : ProperChain c.size p.chain) (hfree : c.IsFree reserved p.chain) :
    c.IsBatch reserved [c.lostFile e p] :=
  .cons hproper hfree (.nil _)

theorem salvageAll_isBatch (reserved : BlockSet) (sightings : List Sighting) :
    c.IsBatch reserved (c.salvageAll reserved sightings) := by
  induction sightings generalizing reserved with
  | nil => exact .nil reserved
  | cons s rest ih =>
      cases htry : c.salvageSighting reserved s with
      | error failure =>
          rw [salvageAll_cons_error htry]
          exact ih reserved
      | ok f =>
          obtain ⟨p, hp, hfree, rfl⟩ := salvageSighting_eq_ok.1 htry
          rw [salvageAll_cons_ok htry]
          exact .cons (proposeSighting_proper hp) hfree (ih _)

end Card
end MemoryCard
