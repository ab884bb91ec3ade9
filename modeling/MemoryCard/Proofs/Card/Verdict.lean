import MemoryCard.Proofs.Card.Accounting
import MemoryCard.Proofs.Card.Recovery

/-! # What becomes of an entry

An entry for which a lost file is wanted gets a chain or is refused for want of one, and the chain is
accepted if no other file has a block of it. The choice of a chain does not look at other files: a chain
that is taken is not exchanged for the next best one.
-/

namespace MemoryCard.Card

variable {c : Card} {e : Entry} {start stop : UInt16}

/-- A regular file has the block, or it is reserved. -/
def IsTaken (c : Card) (reserved : UInt16 → Prop) (b : UInt16) : Prop :=
  (∃ f ∈ c.regularFiles, b ∈ f.chain) ∨ reserved b

/-- What becomes of an entry whose file would take up the blocks from `start` to the one before `stop` if
it lay in one piece. -/
inductive Verdict (c : Card) (reserved : UInt16 → Prop) (e : Entry) (start stop : UInt16) :
    Except Failure SaveFile → Prop
  | noChain {failure : Failure}
      (h : Proposal.Proposed c.tables.allocation c.size e start stop (.error failure)) :
      Verdict c reserved e start stop (.error failure)
  | accepted {p : Proposal}
      (h : Proposal.Proposed c.tables.allocation c.size e start stop (.ok p))
      (hfree : ∀ b ∈ p.chain, ¬ c.IsTaken reserved b) :
      Verdict c reserved e start stop (.ok (c.lostFile e p))
  | taken {p : Proposal} {front rest : List UInt16} {block : UInt16}
      (h : Proposal.Proposed c.tables.allocation c.size e start stop (.ok p))
      (hchain : p.chain = front ++ block :: rest)
      (hfront : ∀ b ∈ front, ¬ c.IsTaken reserved b) (hblock : c.IsTaken reserved block) :
      Verdict c reserved e start stop (.error (.overlap block))

/-- Data blocks are free if they are not taken. -/
theorem Consistent.isFree_iff_not_isTaken (h : c.Consistent) {reserved : BlockSet}
    {chain : List UInt16} (hdata : ∀ b ∈ chain, isDataBlock c.size b = true) :
    c.IsFree reserved chain ↔ ∀ b ∈ chain, ¬ c.IsTaken (reserved.contains · = true) b := by
  refine forall₂_congr fun b hb ↦ ?_
  rw [h.count_eq_zero (hdata b hb), IsTaken, not_or, not_exists, Bool.not_eq_true]
  simp only [not_and]

section Accept

variable {reserved : BlockSet} {p : Proposal}

theorem Consistent.accept_eq_ok_iff (h : c.Consistent)
    (hdata : ∀ b ∈ p.chain, isDataBlock c.size b = true) {f : SaveFile} :
    c.accept reserved e p = .ok f ↔
      (∀ b ∈ p.chain, ¬ c.IsTaken (reserved.contains · = true) b) ∧ f = c.lostFile e p := by
  rw [accept_eq_ok, h.isFree_iff_not_isTaken hdata]

/-- A chain is refused for the first of its blocks that is taken. -/
theorem Consistent.accept_eq_error_iff (h : c.Consistent)
    (hdata : ∀ b ∈ p.chain, isDataBlock c.size b = true) {failure : Failure} :
    c.accept reserved e p = .error failure ↔ ∃ front block rest, p.chain = front ++ block :: rest ∧
      (∀ b ∈ front, ¬ c.IsTaken (reserved.contains · = true) b) ∧
        c.IsTaken (reserved.contains · = true) block ∧ failure = .overlap block := by
  have hsplit {front rest : List UInt16} {block : UInt16} (hchain : p.chain = front ++ block :: rest) :
      c.IsFree reserved front ∧ ¬ c.IsFree reserved [block] ↔
        (∀ b ∈ front, ¬ c.IsTaken (reserved.contains · = true) b) ∧
          c.IsTaken (reserved.contains · = true) block := by
    rw [hchain, List.forall_mem_append, List.forall_mem_cons] at hdata
    rw [h.isFree_iff_not_isTaken hdata.1,
      h.isFree_iff_not_isTaken (List.forall_mem_singleton.2 hdata.2.1), List.forall_mem_singleton,
      not_not]
  rw [accept_eq_error]
  constructor
  · rintro ⟨block, hblock, hfailure⟩
    obtain ⟨front, rest, hchain, htaken⟩ := overlap?_eq_some.1 hblock
    obtain ⟨hfront, hblock⟩ := (hsplit hchain).1 htaken
    exact ⟨front, block, rest, hchain, hfront, hblock, hfailure⟩
  · rintro ⟨front, block, rest, hchain, hfront, hblock, hfailure⟩
    exact ⟨block, overlap?_eq_some.2 ⟨front, rest, hchain, (hsplit hchain).2 ⟨hfront, hblock⟩⟩,
      hfailure⟩

/-- Some file on the card has the block. -/
def Owns (c : Card) (b : UInt16) : Prop := ∃ f ∈ c.files, b ∈ f.chain

theorem isTaken_lostBlocks {b : UInt16} :
    c.IsTaken ((BlockSet.ofList c.lostBlocks).contains · = true) b ↔ c.Owns b := by
  simp only [IsTaken, Owns, c.files_eq, lostBlocks, BlockSet.contains_ofList, List.contains_eq_mem,
    decide_eq_true_eq, List.mem_flatMap, List.mem_append, or_and_right, exists_or]

theorem Consistent.isFree_iff_not_owns (h : c.Consistent) {chain : List UInt16}
    (hdata : ∀ b ∈ chain, isDataBlock c.size b = true) :
    c.IsFree (.ofList c.lostBlocks) chain ↔ ∀ b ∈ chain, ¬ c.Owns b := by
  simp only [h.isFree_iff_not_isTaken hdata, isTaken_lostBlocks]

theorem Consistent.accept_lostBlocks_eq_ok (h : c.Consistent) (hproper : ProperChain c.size p.chain)
    {f : SaveFile} : c.accept (.ofList c.lostBlocks) e p = .ok f ↔
      (∀ b ∈ p.chain, ¬ c.Owns b) ∧ f = c.lostFile e p := by
  simp only [h.accept_eq_ok_iff hproper.isData, isTaken_lostBlocks]

theorem Consistent.accept_lostBlocks_eq_error (h : c.Consistent)
    (hproper : ProperChain c.size p.chain) {failure : Failure} :
    c.accept (.ofList c.lostBlocks) e p = .error failure ↔ ∃ front block rest,
      p.chain = front ++ block :: rest ∧ (∀ b ∈ front, ¬ c.Owns b) ∧ c.Owns block ∧
        failure = .overlap block := by
  simp only [h.accept_eq_error_iff hproper.isData, isTaken_lostBlocks]

end Accept

theorem Consistent.salvage_eq_iff (h : c.Consistent) {reserved : BlockSet}
    {r : Except Failure SaveFile} : c.salvage reserved e start stop = r ↔
      c.Verdict (reserved.contains · = true) e start stop r := by
  have hsalvage : c.salvage reserved e start stop =
      c.propose e start stop >>= c.accept reserved e := rfl
  rw [hsalvage]
  constructor
  · rintro rfl
    cases hpropose : c.propose e start stop with
    | error failure => exact .noChain (Proposal.ofEntry_eq_iff.1 hpropose)
    | ok p =>
        have hdata := (Proposal.ofEntry_proper hpropose).isData
        have hproposed := Proposal.ofEntry_eq_iff.1 hpropose
        rw [ok_bind]
        cases haccept : c.accept reserved e p with
        | ok f =>
            obtain ⟨hfree, rfl⟩ := (h.accept_eq_ok_iff hdata).1 haccept
            exact .accepted hproposed hfree
        | error failure =>
            obtain ⟨front, block, rest, hchain, hfront, hblock, rfl⟩ :=
              (h.accept_eq_error_iff hdata).1 haccept
            exact .taken hproposed hchain hfront hblock
  · intro hr
    cases hr with
    | noChain hproposed => rw [propose, Proposal.ofEntry_eq_iff.2 hproposed, error_bind]
    | accepted hproposed hfree =>
        have hpropose := Proposal.ofEntry_eq_iff.2 hproposed
        rw [propose, hpropose, ok_bind,
          h.accept_eq_ok_iff (Proposal.ofEntry_proper hpropose).isData]
        exact ⟨hfree, rfl⟩
    | taken hproposed hchain hfront hblock =>
        have hpropose := Proposal.ofEntry_eq_iff.2 hproposed
        rw [propose, hpropose, ok_bind,
          h.accept_eq_error_iff (Proposal.ofEntry_proper hpropose).isData]
        exact ⟨_, _, _, hchain, hfront, hblock, rfl⟩

/-- An entry itself is at fault exactly if it is unused. -/
theorem Verdict.invalidArgument_iff {reserved : UInt16 → Prop} {r : Except Failure SaveFile}
    (h : c.Verdict reserved e start stop r) :
    (∃ reason, r = .error (.invalidArgument reason)) ↔ e.isUnused = true := by
  cases h with
  | noChain hproposed => simpa using hproposed.invalidArgument_iff
  | accepted hproposed _ => simp [hproposed.isUnused_eq_false]
  | taken hproposed _ _ _ => simp [hproposed.isUnused_eq_false]

/-- The card with a lost file that has been accepted, at the end of the list. -/
def withVerdict (c : Card) : Except Failure SaveFile → Card
  | .ok f => c.extend [f]
  | .error _ => c

theorem addSalvaged_eq (c : Card) (r : Except Failure SaveFile) :
    (c.addSalvaged r).result = r.map (fun _ ↦ c.files.length) ∧
      (c.addSalvaged r).card = c.withVerdict r := by
  cases r <;> exact ⟨rfl, rfl⟩

/-- The result and the card afterwards tell what the verdict was. -/
theorem withVerdict_injective {r r' : Except Failure SaveFile}
    (hresult : r.map (fun _ ↦ c.files.length) = r'.map fun _ ↦ c.files.length)
    (hcard : c.withVerdict r = c.withVerdict r') : r = r' := by
  cases r with
  | error failure =>
      cases r' with
      | error failure' => cases hresult; rfl
      | ok f' => cases hresult
  | ok f =>
      cases r' with
      | error failure' => cases hresult
      | ok f' =>
          have hfiles : c.files ++ [f] = c.files ++ [f'] := congrArg Card.files hcard
          rw [(List.cons.inj (List.append_cancel_left hfiles)).1]

theorem Consistent.addLost_iff (h : c.Consistent) {r : Except Failure SaveFile} :
    c.Verdict (fun b ↦ ∃ f ∈ c.lostFiles, b ∈ f.chain) e e.firstBlock e.stopBlock r ↔
      (c.addLost e).result = r.map (fun _ ↦ c.files.length) ∧
        (c.addLost e).card = c.withVerdict r := by
  have hreserved : (fun b ↦ ∃ f ∈ c.lostFiles, b ∈ f.chain) =
      fun b ↦ (BlockSet.ofList c.lostBlocks).contains b = true :=
    funext fun b ↦ by simp [lostBlocks]
  obtain ⟨hresult, hcard⟩ := addSalvaged_eq c
    (c.salvage (.ofList c.lostBlocks) e e.firstBlock e.stopBlock)
  rw [hreserved, ← h.salvage_eq_iff, addLost, hresult, hcard]
  constructor
  · rintro rfl
    exact ⟨rfl, rfl⟩
  · rintro ⟨hresult, hcard⟩
    exact withVerdict_injective hresult hcard

/-- On a card with which anything may have been done, an entry gets the chain that comes first in the
order of preference, and this chain is accepted if no regular file has a block of it and none is
reserved, whichever blocks are reserved and wherever the file would lie in one piece. The entry itself is
at fault exactly if it is unused. Taking up a lost file reserves the blocks of the lost files, and looks
for the file in one piece where its entry says, as far as 16 bits go. -/
theorem salvage_verdict (h : c.Reachable) (e : Entry) :
    (∀ reserved start stop r, c.salvage reserved e start stop = r ↔
      c.Verdict (reserved.contains · = true) e start stop r) ∧
    (∀ reserved start stop, (∃ reason,
      c.salvage reserved e start stop = .error (.invalidArgument reason)) ↔ e.isUnused = true) ∧
    (∀ r, c.Verdict (fun b ↦ ∃ f ∈ c.lostFiles, b ∈ f.chain) e e.firstBlock e.stopBlock r ↔
      (c.addLost e).result = r.map (fun _ ↦ c.files.length) ∧
        (c.addLost e).card = c.withVerdict r) ∧
    ((∃ reason, (c.addLost e).result = .error (.invalidArgument reason)) ↔ e.isUnused = true) ∧
    e.stopBlock.toNat = min (e.firstBlock.toNat + e.length.toNat) 0xFFFF := by
  have hconsistent := h.consistent
  have hunused (reserved : BlockSet) (start stop : UInt16) : (∃ reason,
      c.salvage reserved e start stop = .error (.invalidArgument reason)) ↔ e.isUnused = true :=
    (hconsistent.salvage_eq_iff.1 rfl).invalidArgument_iff
  refine ⟨fun _ _ _ _ ↦ hconsistent.salvage_eq_iff, hunused, fun _ ↦ hconsistent.addLost_iff, ?_,
    e.toNat_stopBlock⟩
  rw [← hunused (.ofList c.lostBlocks) e.firstBlock e.stopBlock, addLost, (addSalvaged_eq c _).1]
  cases c.salvage (.ofList c.lostBlocks) e e.firstBlock e.stopBlock <;> simp [Except.map]

/-- On a card of eight blocks with a damaged file and a free block at its end, an entry of the free
block is taken up in one piece, the damaged chain is found again and refused for its first block, and
an unused entry is refused as such. -/
theorem salvage_verdict_halfErased : ∃ sums image c p,
    Image.write ⟨.fill (8 * blockSize) 0, none⟩ halfErased = .ok (sums, image) ∧
      ofImage image = .ok c ∧ c.Reachable ∧
      p = ⟨[7], .contiguous, {}⟩ ∧
      (c.addLost (entryOf 7 1)).result = .ok 1 ∧
      (c.addLost (entryOf 7 1)).card = c.extend [c.lostFile (entryOf 7 1) p] ∧
      c.salvage .empty (entryOf 5 2) 7 6 = .error (.overlap 5) ∧
      c.salvage .empty .unused 7 8 =
        .error (.invalidArgument "directory entry is unused") := by
  obtain ⟨sums, image, c, f, hwrite, hopen, hsize, -, hfree, hwalk, hfiles, hchain, -⟩ :=
    exists_halfErased
  have hreach : c.Reachable := ⟨image, c, [], hopen, rfl⟩
  have hlost : c.lostFiles = [] := lostFiles_ofImage hopen
  have hcount : c.files.length = 1 := by
    rw [files_ofImage hopen, hfiles]
    rfl
  have htaken (reserved : UInt16 → Prop) (b : UInt16) :
      c.IsTaken reserved b ↔ b ∈ [5, 6] ∨ reserved b := by
    simp [IsTaken, hfiles, hchain]
  have haccepted : c.Verdict (fun b ↦ ∃ f ∈ c.lostFiles, b ∈ f.chain) (entryOf 7 1) 7 8
      (.ok (c.lostFile (entryOf 7 1) ⟨[7], .contiguous, {}⟩)) := by
    have hfree₇ : c.tables.allocation.link? 7 = some Allocation.freeLink :=
      (Allocation.mem_freeBlocks.1 (by rw [hfree]; simp)).2
    have hrow : IsRow c.size 7 8 := by
      rw [hsize]
      decide
    exact .accepted (.of_free rfl hfree₇ hrow) (by simp [htaken, hlost])
  have hrefused : c.Verdict (BlockSet.empty.contains · = true) (entryOf 5 2) 7 6
      (.error (.overlap 5)) := by
    have hrow : ¬ IsRow c.size 7 6 := fun h ↦ absurd h.2.1 (by decide)
    rw [← hsize] at hwalk
    exact .taken (.damaged rfl hrow hwalk rfl) (List.nil_append _).symm (by simp) (by simp [htaken])
  obtain ⟨-, -, hadd, -, -⟩ := salvage_verdict hreach (entryOf 7 1)
  obtain ⟨hresult, hcard⟩ := (hadd _).1 haccepted
  refine ⟨sums, image, c, _, hwrite, hopen, hreach, rfl, ?_, hcard, ?_, ?_⟩
  · rw [hresult, hcount]
    rfl
  · exact ((salvage_verdict hreach (entryOf 5 2)).1 _ _ _ _).2 hrefused
  · exact ((salvage_verdict hreach .unused).1 _ _ _ _).2 (.noChain (.unused (by decide)))

end MemoryCard.Card
