import MemoryCard.Allocation.Walk
import MemoryCard.Proofs.Chain
import Mathlib.Data.List.Chain

/-! # Walks through the allocation table

A walk finds a path: the blocks are linked to each other, no block is there twice, and the last one
tells why the path cannot be continued. There is only one path that begins with a given block. So this
says what a walk finds, whatever the links are, and whether the table has a link for each block or not.
-/

namespace MemoryCard
namespace Allocation

variable {a : Allocation} {size block n : UInt16} {blocks : List UInt16}
  {defect? : Option ChainDefect}

/-! ## Where a link leads -/

theorem follow_eq_last_iff : a.follow size block = .last ↔ a.link? block = some lastLink := by
  cases hlink : a.link? block with
  | none => simp [follow, hlink]
  | some n =>
      simp only [follow, hlink, Option.some.injEq]
      split_ifs with hlast <;> simp [hlast]

/-- A walk goes on exactly at links to data blocks. The mark of the last block is none of these,
however large the card is. -/
theorem follow_eq_next_iff :
    a.follow size block = .next n ↔ a.link? block = some n ∧ isDataBlock size n = true := by
  constructor
  · intro h
    unfold follow at h
    split at h
    · cases h
    · rename_i hlink
      split_ifs at h with _ _ hsystem hsize
      cases h
      simp only [UInt16.not_lt, UInt16.not_le] at hsystem hsize
      exact ⟨hlink, by simp [isDataBlock, hsystem, hsize]⟩
  · rintro ⟨hlink, hdata⟩
    obtain ⟨hsystem, hsize⟩ := isDataBlock_iff.1 hdata
    have hlast : n ≠ lastLink := by
      rintro rfl
      exact absurd size.toNat_lt (Nat.not_lt.2 hsize)
    have hfree : n ≠ freeLink := by
      rintro rfl
      exact absurd hsystem (by decide)
    have hnotSystem : ¬ n < systemBlocks := UInt16.not_lt.2 (UInt16.le_iff_toNat_le.2 hsystem)
    have hnotPast : ¬ size ≤ n := UInt16.not_le.2 (UInt16.lt_iff_toNat_lt.2 hsize)
    simp only [follow, hlink, if_neg hlast, if_neg hfree, if_neg hnotSystem, if_neg hnotPast]

/-- What is wrong with the link of a block, if it neither marks the last block nor leads to a data
block. -/
inductive BadLink (a : Allocation) (size block : UInt16) : ChainDefect → Prop
  | unlisted (h : a.link? block = none) : BadLink a size block (.unlisted block)
  | free (h : a.link? block = some freeLink) : BadLink a size block (.linkToFree block)
  | system {n : UInt16} (h : a.link? block = some n) (hpos : 1 ≤ n.toNat) (hn : n.toNat < 5) :
      BadLink a size block (.linkToSystem block n)
  | pastEnd {n : UInt16} (h : a.link? block = some n) (hn : size.toNat ≤ n.toNat)
      (hlast : n ≠ lastLink) : BadLink a size block (.linkPastEnd block n)

theorem follow_eq_broken_iff (hsize : 5 ≤ size.toNat) {defect : ChainDefect} :
    a.follow size block = .broken defect ↔ a.BadLink size block defect := by
  constructor
  · intro h
    unfold follow at h
    split at h
    · cases h
      exact .unlisted ‹_›
    · rename_i n hlink
      split_ifs at h with hlast hfree hsystem hpast
      · cases h
        exact .free (hfree ▸ hlink)
      · cases h
        exact .system hlink (Nat.one_le_iff_ne_zero.2 fun e ↦ hfree (UInt16.toNat_inj.1 e))
          (UInt16.lt_iff_toNat_lt.1 hsystem)
      · cases h
        exact .pastEnd hlink (UInt16.le_iff_toNat_le.1 hpast) hlast
  · intro h
    cases h with
    | unlisted h => simp only [follow, h]
    | free h =>
        have hlast : freeLink ≠ lastLink := by decide
        simp only [follow, h, if_neg hlast, if_true]
    | @system n h hpos hn =>
        have hlast : n ≠ lastLink := by
          rintro rfl
          exact absurd hn (by decide)
        have hfree : n ≠ freeLink := by
          rintro rfl
          exact absurd hpos (by decide)
        have hsystem : n < systemBlocks := UInt16.lt_iff_toNat_lt.2 hn
        simp only [follow, h, if_neg hlast, if_neg hfree, if_pos hsystem]
    | @pastEnd n h hn hlast =>
        have hfree : n ≠ freeLink := by
          rintro rfl
          exact absurd (hsize.trans hn) (by decide)
        have hsystem : ¬ n < systemBlocks :=
          UInt16.not_lt.2 (UInt16.le_iff_toNat_le.2 (hsize.trans hn))
        have hpast : size ≤ n := UInt16.le_iff_toNat_le.2 hn
        simp only [follow, h, if_neg hlast, if_neg hfree, if_neg hsystem, if_pos hpast]

/-- The next step of a walk, unless it has reached its limit or a block it has seen. -/
theorem trace_succ {limit : Nat} {seen : BlockSet} {block : UInt16}
    (h : seen.contains block = false) :
    a.trace size (limit + 1) seen block = match a.follow size block with
      | .last => ([block], none)
      | .broken defect => ([block], some defect)
      | .next n =>
        (block :: (a.trace size limit (seen.insert block) n).1,
          (a.trace size limit (seen.insert block) n).2) := by
  cases hfollow : a.follow size block with
  | last => simp [trace, h, hfollow]
  | broken defect => simp [trace, h, hfollow]
  | next n => simp [trace, h, hfollow]

/-! ## Paths -/

/-- No data block of the card is missing. -/
def IsExhausted (size : UInt16) (blocks : List UInt16) : Prop :=
  ∀ b, isDataBlock size b = true → b ∈ blocks

/-- Why a walk that has found `blocks` ends with the last of them. It ends without a defect where this
block is marked as the last one. A link back to some block counts as a repetition, unless all data
blocks have been found, since the chain is too long for the card then. -/
inductive Ending (a : Allocation) (size : UInt16) (blocks : List UInt16) (last : UInt16) :
    Option ChainDefect → Prop
  | marked (h : a.link? last = some lastLink) : Ending a size blocks last none
  | broken {defect : ChainDefect} (h : a.BadLink size last defect) :
      Ending a size blocks last (some defect)
  | revisited {n : UInt16} (h : a.link? last = some n) (hn : n ∈ blocks)
      (hmore : ¬ IsExhausted size blocks) : Ending a size blocks last (some (.revisited n))
  | longer {n : UInt16} (h : a.link? last = some n) (hn : n ∈ blocks)
      (hall : IsExhausted size blocks) :
      Ending a size blocks last (some (.longerThan (size.toNat - 5)))

/-- Links lead to one block only. So of two rows of linked blocks that begin alike, one goes on where
the other ends. -/
theorem isPrefix_or_of_linked {blocks' : List UInt16}
    (h : blocks.IsChain fun b n ↦ a.link? b = some n)
    (h' : blocks'.IsChain fun b n ↦ a.link? b = some n) (hhead : blocks.head? = blocks'.head?) :
    blocks <+: blocks' ∨ blocks' <+: blocks := by
  induction blocks generalizing blocks' with
  | nil => exact .inl List.nil_prefix
  | cons b rest ih =>
      obtain ⟨rest', rfl⟩ := List.head?_eq_some_iff.1 hhead.symm
      rw [List.isChain_cons] at h h'
      simp only [List.prefix_cons_inj]
      cases rest with
      | nil => exact .inl List.nil_prefix
      | cons n _ =>
          cases rest' with
          | nil => exact .inr List.nil_prefix
          | cons n' _ =>
              have hn := h.1 n rfl
              have hn' := h'.1 n' rfl
              exact ih h.2 h'.2 (hn.symm.trans hn')

/-- Data blocks, none of them twice, each of which links to the next. -/
structure IsTrail (a : Allocation) (size : UInt16) (blocks : List UInt16) : Prop where
  isData : ∀ b ∈ blocks, isDataBlock size b = true
  nodup : blocks.Nodup
  linked : blocks.IsChain fun b n ↦ a.link? b = some n

/-- A trail that cannot be continued, and why. -/
structure IsPath (a : Allocation) (size : UInt16) (blocks : List UInt16)
    (defect? : Option ChainDefect) : Prop extends IsTrail a size blocks where
  ending : ∃ last ∈ blocks.getLast?, a.Ending size blocks last defect?

namespace IsTrail

theorem nil : a.IsTrail size [] := ⟨by simp, .nil, .nil⟩

theorem concat (h : a.IsTrail size blocks) (hdata : isDataBlock size block = true)
    (hnew : block ∉ blocks) (hlink : ∀ last ∈ blocks.getLast?, a.link? last = some block) :
    a.IsTrail size (blocks ++ [block]) where
  isData := by simpa [or_imp, forall_and] using ⟨h.isData, hdata⟩
  nodup := by simpa [List.nodup_append] using ⟨h.nodup, fun b hb e ↦ hnew (e ▸ hb)⟩
  linked := h.linked.append (.singleton _) (by simpa using hlink)

end IsTrail

/-- Why a walk ends is settled by where the link of its last block leads. -/
theorem ending_iff (hsize : 5 ≤ size.toNat) (hdata : ∀ b ∈ blocks, isDataBlock size b = true)
    {last : UInt16} :
    a.Ending size blocks last defect? ↔ match a.follow size last with
      | .last => defect? = none
      | .broken defect => defect? = some defect
      | .next n => n ∈ blocks ∧
        (¬ IsExhausted size blocks ∧ defect? = some (.revisited n) ∨
          IsExhausted size blocks ∧ defect? = some (.longerThan (size.toNat - 5))) := by
  constructor
  · intro h
    cases h with
    | marked h => rw [follow_eq_last_iff.2 h]
    | broken h => rw [(follow_eq_broken_iff hsize).2 h]
    | revisited h hn hmore =>
        rw [follow_eq_next_iff.2 ⟨h, hdata _ hn⟩]
        exact ⟨hn, .inl ⟨hmore, rfl⟩⟩
    | longer h hn hall =>
        rw [follow_eq_next_iff.2 ⟨h, hdata _ hn⟩]
        exact ⟨hn, .inr ⟨hall, rfl⟩⟩
  · intro h
    cases hfollow : a.follow size last with
    | last =>
        rw [hfollow] at h
        rw [h]
        exact .marked (follow_eq_last_iff.1 hfollow)
    | broken defect =>
        rw [hfollow] at h
        rw [h]
        exact .broken ((follow_eq_broken_iff hsize).1 hfollow)
    | next n =>
        rw [hfollow] at h
        obtain ⟨hn, ⟨hmore, rfl⟩ | ⟨hall, rfl⟩⟩ := h
        · exact .revisited (follow_eq_next_iff.1 hfollow).1 hn hmore
        · exact .longer (follow_eq_next_iff.1 hfollow).1 hn hall

namespace IsPath

variable {blocks' : List UInt16} {defect?' : Option ChainDefect}

theorem five_le_size (h : a.IsPath size blocks defect?) : 5 ≤ size.toNat := by
  obtain ⟨last, hlast, -⟩ := h.ending
  exact five_le_of_isDataBlock (h.isData last (List.mem_of_getLast? hlast))

/-- A path goes on as long as it can. -/
theorem maximal (h : a.IsPath size blocks defect?) {last : UInt16} (hlast : last ∈ blocks.getLast?)
    (hlink : a.link? last = some n) (hdata : isDataBlock size n = true) : n ∈ blocks := by
  obtain ⟨last', hlast', hending⟩ := h.ending
  obtain rfl := Option.mem_unique hlast hlast'
  have := (ending_iff h.five_le_size h.isData).1 hending
  rw [follow_eq_next_iff.2 ⟨hlink, hdata⟩] at this
  exact this.1

theorem sound_iff (h : a.IsPath size blocks defect?) :
    defect? = none ↔ ∃ last ∈ blocks.getLast?, a.link? last = some lastLink := by
  obtain ⟨last, hlast, hending⟩ := h.ending
  constructor
  · rintro rfl
    cases hending with
    | marked hmark => exact ⟨last, hlast, hmark⟩
  · rintro ⟨last', hlast', hmark⟩
    obtain rfl := Option.mem_unique hlast hlast'
    have := (ending_iff h.five_le_size h.isData).1 hending
    rwa [follow_eq_last_iff.2 hmark] at this

/-- A free block can only be the last one of a path. Nothing but its mark is the reason why the path
ends there. -/
theorem ends_of_free (h : a.IsPath size blocks defect?) (hmem : block ∈ blocks)
    (hfree : a.link? block = some freeLink) :
    blocks.getLast? = some block ∧ defect? = some (.linkToFree block) := by
  obtain ⟨front, rest, rfl⟩ := List.append_of_mem hmem
  have hlast : (front ++ block :: rest).getLast? = some block := by
    cases rest with
    | nil => exact List.getLast?_concat
    | cons next rest =>
        -- a link to the next block would mark this one as used
        have hlink := (List.isChain_cons_cons.1 h.linked.right_of_append).1
        have hdata := isDataBlock_iff.1 (h.isData next (by simp))
        cases hfree.symm.trans hlink
        exact absurd hdata.1 (by decide)
  refine ⟨hlast, ?_⟩
  obtain ⟨last, hlast', hending⟩ := h.ending
  cases hlast.symm.trans hlast'
  rwa [ending_iff h.five_le_size h.isData,
    (follow_eq_broken_iff h.five_le_size).2 (.free hfree)] at hending

/-- A chain is too long exactly if it leads back to one of its blocks when no other block is left. -/
theorem longer_iff (h : a.IsPath size blocks defect?) (limit : Nat) :
    defect? = some (.longerThan limit) ↔ limit = size.toNat - 5 ∧
      (∃ last ∈ blocks.getLast?, ∃ n ∈ blocks, a.link? last = some n) ∧ IsExhausted size blocks := by
  obtain ⟨last, hlast, hending⟩ := h.ending
  constructor
  · rintro rfl
    cases hending with
    | broken hbad => cases hbad
    | longer hlink hn hall => exact ⟨rfl, ⟨last, hlast, _, hn, hlink⟩, hall⟩
  · rintro ⟨rfl, ⟨last', hlast', n, hn, hlink⟩, hall⟩
    obtain rfl := Option.mem_unique hlast hlast'
    have := (ending_iff h.five_le_size h.isData).1 hending
    rw [follow_eq_next_iff.2 ⟨hlink, h.isData n hn⟩] at this
    obtain ⟨-, ⟨hmore, -⟩ | ⟨-, hdefect⟩⟩ := this
    · exact absurd hall hmore
    · exact hdefect

theorem eq_of_isPrefix (h : a.IsPath size blocks defect?) (h' : a.IsTrail size blocks')
    (hfront : blocks <+: blocks') : blocks = blocks' := by
  obtain ⟨rest, rfl⟩ := hfront
  cases rest with
  | nil => exact (List.append_nil _).symm
  | cons n rest =>
      obtain ⟨last, hlast, -⟩ := h.ending
      have hlink := (List.isChain_append.1 h'.linked).2.2 last hlast n rfl
      have hmem := h.maximal hlast hlink (h'.isData n (by simp))
      exact absurd rfl ((List.nodup_append.1 h'.nodup).2.2 n hmem n (by simp))

/-- There is only one path from a block, and it can end for one reason only. -/
theorem unique (h : a.IsPath size blocks defect?) (h' : a.IsPath size blocks' defect?')
    (hhead : blocks.head? = blocks'.head?) : blocks = blocks' ∧ defect? = defect?' := by
  have hblocks : blocks = blocks' := by
    rcases isPrefix_or_of_linked h.linked h'.linked hhead with hfront | hfront
    · exact h.eq_of_isPrefix h'.toIsTrail hfront
    · exact (h'.eq_of_isPrefix h.toIsTrail hfront).symm
  subst hblocks
  refine ⟨rfl, ?_⟩
  obtain ⟨last, hlast, hending⟩ := h.ending
  obtain ⟨last', hlast', hending'⟩ := h'.ending
  obtain rfl := Option.mem_unique hlast hlast'
  rw [ending_iff h.five_le_size h.isData] at hending hending'
  cases hfollow : a.follow size last with
  | last =>
      rw [hfollow] at hending hending'
      exact hending.trans hending'.symm
  | broken defect =>
      rw [hfollow] at hending hending'
      exact hending.trans hending'.symm
  | next n =>
      rw [hfollow] at hending hending'
      obtain ⟨-, ⟨hmore, rfl⟩ | ⟨hall, rfl⟩⟩ := hending
      · obtain ⟨-, ⟨-, rfl⟩ | ⟨hall, -⟩⟩ := hending'
        · rfl
        · exact absurd hall hmore
      · obtain ⟨-, ⟨hmore, -⟩ | ⟨-, rfl⟩⟩ := hending'
        · exact absurd hall hmore
        · rfl

end IsPath

/-! ## What a walk finds -/

/-- The state of a walk that has found some blocks and comes to `block`. It takes notice of at most
`limit` more of them, which is as many as the card has besides those that have been found. -/
structure Visiting (a : Allocation) (size : UInt16) (limit : Nat) (seen : BlockSet)
    (found : List UInt16) (block : UInt16) : Prop where
  trail : a.IsTrail size found
  isData : isDataBlock size block = true
  link : ∀ last ∈ found.getLast?, a.link? last = some block
  contains_iff : ∀ b, seen.contains b = true ↔ b ∈ found
  room : found.length + limit = size.toNat - 5

namespace Visiting

variable {limit : Nat} {seen : BlockSet} {found : List UInt16}

theorem start (h : isDataBlock size block = true) :
    a.Visiting size (dataBlocks size).toNat .empty [] block where
  trail := .nil
  isData := h
  link := nofun
  contains_iff := by simp
  room := by simp [toNat_dataBlocks]

theorem next (h : a.Visiting size (limit + 1) seen found block) (hnew : block ∉ found)
    (hfollow : a.follow size block = .next n) :
    a.Visiting size limit (seen.insert block) (found ++ [block]) n where
  trail := h.trail.concat h.isData hnew h.link
  isData := (follow_eq_next_iff.1 hfollow).2
  link := by simpa using (follow_eq_next_iff.1 hfollow).1
  contains_iff b := by
    rw [BlockSet.contains_insert, Bool.or_eq_true, h.contains_iff, beq_iff_eq, List.mem_append,
      List.mem_singleton, eq_comm (a := b)]
  room := by
    have := h.room
    simp only [List.length_append, List.length_singleton]
    omega

/-- A block that has been found before is what the last link leads back to. -/
theorem back (h : a.Visiting size limit seen found block) (hmem : block ∈ found) :
    ∃ last ∈ found.getLast?, a.link? last = some block :=
  have hlast := List.getLast?_eq_some_getLast (List.ne_nil_of_mem hmem)
  ⟨_, hlast, h.link _ hlast⟩

theorem isExhausted_iff (h : a.Visiting size limit seen found block) :
    IsExhausted size found ↔ limit = 0 := by
  rw [IsExhausted, ← length_eq_iff_of_nodup h.trail.isData h.trail.nodup, ← h.room]
  omega

/-- Whatever a walk comes to, it completes a path. -/
theorem isPath_trace (h : a.Visiting size limit seen found block) :
    a.IsPath size (found ++ (a.trace size limit seen block).1) (a.trace size limit seen block).2 := by
  have hsize := five_le_of_isDataBlock h.isData
  induction limit generalizing seen found block with
  | zero =>
      -- the card has no more data blocks, so this one has been found before
      have hall := h.isExhausted_iff.2 rfl
      have hmem := hall block h.isData
      obtain ⟨last, hlast, hlink⟩ := h.back hmem
      rw [trace, List.append_nil, toNat_dataBlocks]
      exact ⟨h.trail, last, hlast, .longer hlink hmem hall⟩
  | succ limit ih =>
      by_cases hmem : block ∈ found
      · have hmore := mt h.isExhausted_iff.1 (Nat.succ_ne_zero limit)
        obtain ⟨last, hlast, hlink⟩ := h.back hmem
        rw [trace, if_pos ((h.contains_iff block).2 hmem), List.append_nil]
        exact ⟨h.trail, last, hlast, .revisited hlink hmem hmore⟩
      · have hseen := Bool.eq_false_iff.2 (mt (h.contains_iff block).1 hmem)
        have htrail := h.trail.concat h.isData hmem h.link
        rw [trace_succ hseen]
        cases hfollow : a.follow size block with
        | last => exact ⟨htrail, block, by simp, .marked (follow_eq_last_iff.1 hfollow)⟩
        | broken defect =>
            exact ⟨htrail, block, by simp, .broken ((follow_eq_broken_iff hsize).1 hfollow)⟩
        | next n =>
            have hrest := ih (h.next hmem hfollow)
            rwa [List.append_assoc, List.singleton_append] at hrest

end Visiting

section Walk

variable {first recorded : UInt16} {w : Walk}

/-- What a walk from a block that is in use gives, whatever it runs into. -/
theorem walk_eq_ok (h : a.walk first recorded size = .ok w) :
    isDataBlock size first = true ∧ a.link? first ≠ some freeLink ∧
      w = ⟨(a.trace size (dataBlocks size).toNat .empty first).1,
        (a.trace size (dataBlocks size).toNat .empty first).2,
        mismatch? recorded (a.trace size (dataBlocks size).toNat .empty first).1⟩ := by
  unfold walk at h
  split_ifs at h with hdata hfree
  cases h
  exact ⟨by simpa using hdata, hfree, rfl⟩

theorem exists_walk (hdata : isDataBlock size first = true) (hfree : a.link? first ≠ some freeLink)
    (recorded : UInt16) : ∃ w, a.walk first recorded size = .ok w := by
  rw [walk, if_neg (by simp [hdata]), if_neg hfree]
  exact ⟨_, rfl⟩

theorem walk_mismatch (h : a.walk first recorded size = .ok w) :
    w.mismatch? = MemoryCard.mismatch? recorded w.blocks := by
  obtain ⟨-, -, rfl⟩ := walk_eq_ok h
  rfl

theorem walk_isPath (h : a.walk first recorded size = .ok w) :
    a.IsPath size w.blocks w.defect? ∧ w.blocks.head? = some first := by
  obtain ⟨hdata, -, rfl⟩ := walk_eq_ok h
  refine ⟨(Visiting.start hdata).isPath_trace, ?_⟩
  obtain ⟨limit, hlimit⟩ := Nat.exists_eq_succ_of_ne_zero (n := (dataBlocks size).toNat) (by
    have := isDataBlock_iff.1 hdata
    rw [toNat_dataBlocks]
    omega)
  rw [hlimit, trace_succ (BlockSet.contains_empty _)]
  cases a.follow size first <;> rfl

theorem walk_proper (h : a.walk first recorded size = .ok w) : ProperChain size w.blocks := by
  obtain ⟨hpath, hhead⟩ := walk_isPath h
  exact ⟨List.ne_nil_of_mem (List.mem_of_head? hhead), hpath.nodup, hpath.isData⟩

/-- A path is found from its first block, whatever length is recorded, unless this block is free. -/
theorem IsPath.walk_eq (h : a.IsPath size blocks defect?) (hhead : blocks.head? = some first)
    (hfree : a.link? first ≠ some freeLink) (recorded : UInt16) :
    a.walk first recorded size = .ok ⟨blocks, defect?, MemoryCard.mismatch? recorded blocks⟩ := by
  obtain ⟨w, hw⟩ := exists_walk (h.isData first (List.mem_of_head? hhead)) hfree recorded
  obtain ⟨hpath, hhead'⟩ := walk_isPath hw
  obtain ⟨rfl, rfl⟩ := hpath.unique h (hhead'.trans hhead.symm)
  rw [hw, ← walk_mismatch hw]

theorem length_toUInt16_eq_iff (hlength : blocks.length < 0x10000) {n : UInt16} :
    blocks.length.toUInt16 = n ↔ blocks.length = n.toNat := by
  have htoNat : blocks.length.toUInt16.toNat = blocks.length := Nat.mod_eq_of_lt hlength
  rw [← UInt16.toNat_inj, htoNat]

theorem mismatch?_eq_none_iff (hlength : blocks.length < 0x10000) :
    MemoryCard.mismatch? recorded blocks = none ↔ blocks.length = recorded.toNat := by
  rw [MemoryCard.mismatch?, ← length_toUInt16_eq_iff hlength]
  split_ifs with h
  · simp [h]
  · simp [h]

theorem mismatch?_eq_some_iff (hlength : blocks.length < 0x10000) (expected found : UInt16) :
    MemoryCard.mismatch? recorded blocks = some (expected, found) ↔
      expected = recorded ∧ found.toNat = blocks.length ∧ blocks.length ≠ recorded.toNat := by
  rw [MemoryCard.mismatch?, @eq_comm _ found.toNat, ne_eq, ← length_toUInt16_eq_iff hlength,
    ← length_toUInt16_eq_iff hlength]
  split_ifs with h
  · simp [h]
  · simp [h, eq_comm]

/-- What a walk has to find from the block `first`, for a file of the recorded length. -/
structure IsWalk (a : Allocation) (first recorded size : UInt16) (w : Walk) : Prop
    extends IsPath a size w.blocks w.defect? where
  head : w.blocks.head? = some first
  maximal : ∀ last ∈ w.blocks.getLast?, ∀ n, a.link? last = some n → isDataBlock size n = true →
    n ∈ w.blocks
  sound_iff : w.defect? = none ↔ ∃ last ∈ w.blocks.getLast?, a.link? last = some lastLink
  longer_iff : ∀ limit, w.defect? = some (.longerThan limit) ↔ limit = size.toNat - 5 ∧
    (∃ last ∈ w.blocks.getLast?, ∃ n ∈ w.blocks, a.link? last = some n) ∧
      IsExhausted size w.blocks
  mismatch_iff : ∀ expected found, w.mismatch? = some (expected, found) ↔
    expected = recorded ∧ found.toNat = w.blocks.length ∧ w.blocks.length ≠ recorded.toNat

theorem IsTrail.length_lt (h : a.IsTrail size blocks) : blocks.length < 0x10000 :=
  length_lt_of_nodup h.isData h.nodup

theorem isWalk_of_walk (h : a.walk first recorded size = .ok w) :
    a.IsWalk first recorded size w := by
  obtain ⟨hpath, hhead⟩ := walk_isPath h
  refine ⟨hpath, hhead, fun last hlast n ↦ hpath.maximal hlast, hpath.sound_iff,
    hpath.longer_iff, ?_⟩
  rw [walk_mismatch h]
  exact mismatch?_eq_some_iff hpath.length_lt

theorem IsWalk.walk_eq (h : a.IsWalk first recorded size w) (hfree : a.link? first ≠ some freeLink) :
    a.walk first recorded size = .ok w := by
  have hmismatch : MemoryCard.mismatch? recorded w.blocks = w.mismatch? := by
    refine Option.ext fun (expected, found) ↦ ?_
    rw [h.mismatch_iff, mismatch?_eq_some_iff h.length_lt]
  rw [h.toIsPath.walk_eq h.head hfree, hmismatch]

/-- Whatever the links of a table are, a walk from a block comes to an end. It fails exactly if this
block is no data block or is free, and otherwise it finds the path that begins there: linked data
blocks, none of them twice, as many as there are before the mark of the last block or a defect, which
is the one that is there. -/
theorem walk_exact (a : Allocation) (first recorded size : UInt16) :
    (∀ failure, a.walk first recorded size = .error failure ↔
      (isDataBlock size first = false ∧ failure = .corruptChain first (.firstOutside size)) ∨
      (isDataBlock size first = true ∧ a.link? first = some freeLink ∧
        failure = .corruptChain first .firstFree)) ∧
    ((∃ w, a.walk first recorded size = .ok w) ↔
      isDataBlock size first = true ∧ a.link? first ≠ some freeLink) ∧
    ∀ w, a.walk first recorded size = .ok w ↔
      (isDataBlock size first = true ∧ a.link? first ≠ some freeLink) ∧
        a.IsWalk first recorded size w := by
  refine ⟨?_, ?_, ?_⟩
  · intro failure
    cases hdata : isDataBlock size first with
    | false => simp [walk, hdata, eq_comm]
    | true =>
        by_cases hfree : a.link? first = some freeLink
        · simp [walk, hdata, hfree, eq_comm]
        · obtain ⟨w, hw⟩ := exists_walk hdata hfree recorded
          simp [hw, hfree]
  · constructor
    · rintro ⟨w, h⟩
      exact ⟨(walk_eq_ok h).1, (walk_eq_ok h).2.1⟩
    · rintro ⟨hdata, hfree⟩
      exact exists_walk hdata hfree recorded
  · intro w
    constructor
    · intro h
      exact ⟨⟨(walk_eq_ok h).1, (walk_eq_ok h).2.1⟩, isWalk_of_walk h⟩
    · rintro ⟨⟨-, hfree⟩, h⟩
      exact h.walk_eq hfree

/-- A chain may take up the whole card. -/
example : (⟨0, 0, 0, #[6, 7, lastLink], 0⟩ : Allocation).walk 5 3 8 =
    .ok ⟨[5, 6, 7], none, none⟩ := rfl

/-- A loop through all data blocks is too long, not a repetition. -/
example : (⟨0, 0, 0, #[6, 7, 5], 0⟩ : Allocation).walk 5 2 8 =
    .ok ⟨[5, 6, 7], some (.longerThan 3), some (2, 3)⟩ := rfl

end Walk

end Allocation
end MemoryCard
