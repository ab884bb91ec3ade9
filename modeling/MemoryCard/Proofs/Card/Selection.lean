import MemoryCard.Proofs.Card.Consistency

/-! # The tables in use decide the rest

However a card has come to have certain copies of its tables in use, its regular part is the same:
that of a card just opened on which these copies are chosen. Lost files that come and go leave no
trace in it.
-/

namespace MemoryCard.Card

variable {c r : Card}

/-! ## Choosing copies -/

@[simp] theorem withCopies_withCopies (c : Card) (d a d' a' : Copy) :
    (c.withCopies d a).withCopies d' a' = c.withCopies d' a' := rfl

@[simp] theorem withoutLost_withCopies (c : Card) (d a : Copy) :
    (c.withCopies d a).withoutLost = c.withCopies d a := withoutLost_relist c _

@[simp] theorem directory_withCopies (c : Card) (d a : Copy) :
    (c.withCopies d a).tables.directories.inUse = d := rfl

@[simp] theorem allocation_withCopies (c : Card) (d a : Copy) :
    (c.withCopies d a).tables.allocations.inUse = a := rfl

/-- A consistent card looks, but for its lost files, as if its copies had just been chosen. -/
theorem Consistent.withoutLost_eq (h : c.Consistent) :
    c.withoutLost = c.withCopies c.tables.directories.inUse c.tables.allocations.inUse := h.settled

/-- On a card without lost files, choosing the copy that is in use already makes no difference to
listing the files again. -/
theorem selectDirectory_withCopies (c : Card) (d a d' : Copy) :
    ((c.withCopies d a).selectDirectory d'.toByte).card = c.withCopies d' a := by
  rw [selectDirectory_card, directory_withCopies]
  split
  · rename_i h
    rw [h]
  · rfl

theorem selectAllocation_withCopies (c : Card) (d a a' : Copy) :
    ((c.withCopies d a).selectAllocation a'.toByte).card = c.withCopies d a' := by
  rw [selectAllocation_card, allocation_withCopies]
  split
  · rename_i h
    rw [h]
  · rfl

theorem select_commute (c : Card) (m n : UInt8) :
    Operation.run c [.selectDirectory m, .selectAllocation n] =
      Operation.run c [.selectAllocation n, .selectDirectory m] := by
  show ((c.selectDirectory m).card.selectAllocation n).card =
    ((c.selectAllocation n).card.selectDirectory m).card
  rcases Copy.eq_toByte_or m with hm | ⟨d, rfl⟩
  · rw [selectDirectory_of_one_lt hm, selectDirectory_of_one_lt hm]
  rcases Copy.eq_toByte_or n with hn | ⟨a, rfl⟩
  · rw [selectAllocation_of_one_lt hn, selectAllocation_of_one_lt hn]
  simp only [selectDirectory_card, selectAllocation_card]
  by_cases hd : c.tables.directories.inUse = d <;> by_cases ha : c.tables.allocations.inUse = a <;>
    simp [hd, ha]

theorem selectDirectory_back (h : c.Consistent) (n : UInt8) :
    (Operation.run c [.selectDirectory n,
      .selectDirectory c.tables.directories.inUse.toByte]).withoutLost = c.withoutLost := by
  show ((c.selectDirectory n).card.selectDirectory _).card.withoutLost = _
  rcases Copy.eq_toByte_or n with hn | ⟨d, rfl⟩
  · rw [selectDirectory_of_one_lt hn, selectDirectory_card, if_pos rfl]
  rw [selectDirectory_card c d]
  split
  · rw [selectDirectory_card, if_pos rfl]
  · rw [selectDirectory_withCopies, withoutLost_withCopies, h.withoutLost_eq]

theorem selectAllocation_back (h : c.Consistent) (n : UInt8) :
    (Operation.run c [.selectAllocation n,
      .selectAllocation c.tables.allocations.inUse.toByte]).withoutLost = c.withoutLost := by
  show ((c.selectAllocation n).card.selectAllocation _).card.withoutLost = _
  rcases Copy.eq_toByte_or n with hn | ⟨a, rfl⟩
  · rw [selectAllocation_of_one_lt hn, selectAllocation_card, if_pos rfl]
  rw [selectAllocation_card c a]
  split
  · rw [selectAllocation_card, if_pos rfl]
  · rw [selectAllocation_withCopies, withoutLost_withCopies, h.withoutLost_eq]

/-! ## Runs -/

theorem withoutLost_apply_of_not_selection (h : c.Consistent) {o : Operation}
    (ho : o.isSelection = false) : (o.apply c).card.withoutLost = c.withoutLost := by
  rcases Operation.apply_card_of_not_selection (c := c) ho with ⟨files, -, e⟩ | e
  · rw [e, withoutLost_extend h]
  · rw [e, withoutLost_withoutLost]

/-- The card `r` has the regular part of `c` with some copies of the tables in use. -/
def Follows (c r : Card) : Prop := r.Consistent ∧ ∃ d a, r.withoutLost = c.withCopies d a

theorem Follows.apply (h : c.Follows r) (o : Operation) : c.Follows (o.apply r).card := by
  obtain ⟨hr, d, a, e⟩ := h
  refine ⟨hr.apply o, ?_⟩
  cases ho : o.isSelection with
  | false => exact ⟨d, a, (withoutLost_apply_of_not_selection hr ho).trans e⟩
  | true =>
      rcases Operation.apply_card_of_selection (c := r) ho with e' | ⟨d', a', e'⟩
      · exact ⟨d, a, by rw [e', e]⟩
      · refine ⟨d', a', ?_⟩
        -- listing anew does not look at the lost files
        have hlisted : r.withCopies d' a' = r.withoutLost.withCopies d' a' := rfl
        rw [e', withoutLost_withCopies, hlisted, e, withCopies_withCopies]

theorem Follows.run (h : c.Follows r) (os : List Operation) : c.Follows (Operation.run r os) :=
  Operation.run_induction (P := c.Follows) (fun _ o hr ↦ hr.apply o) h os

theorem Follows.withoutLost_eq (h : c.Follows r) :
    r.withoutLost = c.withCopies r.tables.directories.inUse r.tables.allocations.inUse := by
  obtain ⟨-, d, a, e⟩ := h
  have htables := congrArg Card.tables e
  change r.tables = (c.withCopies d a).tables at htables
  rw [e, htables, directory_withCopies, allocation_withCopies]

theorem opened_eq_withCopies (image : Image) : opened image =
    (opened image).withCopies (opened image).tables.directories.inUse
      (opened image).tables.allocations.inUse := by
  rw [withCopies, Tables.use_inUse, relist_opened]

theorem follows_run_opened (image : Image) (os : List Operation) :
    (opened image).Follows (Operation.run (opened image) os) :=
  Follows.run ⟨consistent_opened image, _, _, withoutLost_relist (opened image) _⟩ os

/-- A card keeps its image, and this image can be opened. -/
theorem Reachable.eq_run (h : c.Reachable) :
    ofImage c.image = .ok (opened c.image) ∧ ∃ os, c = Operation.run (opened c.image) os := by
  obtain ⟨image, _, os, hopen, rfl⟩ := h
  obtain ⟨-, -, rfl⟩ := ofImage_eq_ok.1 hopen
  obtain ⟨-, d, a, e⟩ := follows_run_opened image os
  have himage : (Operation.run (opened image) os).image = image := congrArg Card.image e
  rw [himage]
  exact ⟨hopen, os, rfl⟩

/-- But for its lost files, a card depends on its image and the copies of the tables in use. -/
theorem Reachable.withoutLost_eq (h : c.Reachable) :
    ∃ d a, c.withoutLost = (opened c.image).withCopies d a := by
  obtain ⟨-, os, e⟩ := h.eq_run
  obtain ⟨-, d, a, hcopies⟩ := follows_run_opened c.image os
  rw [← e] at hcopies
  exact ⟨d, a, hcopies⟩

/-- After any run, a card has the regular part of a card that was just opened from the same image
and on which the copies in use are chosen, one after the other in either order. All parts of the
card take part in the equations, and only its lost files are left out. -/
theorem withoutLost_run {image : Image} {c : Card} (h : ofImage image = .ok c)
    (os : List Operation) :
    let r := Operation.run c os
    let d := r.tables.directories.inUse.toByte
    let a := r.tables.allocations.inUse.toByte
    r.withoutLost = Operation.run c [.selectDirectory d, .selectAllocation a] ∧
      r.withoutLost = Operation.run c [.selectAllocation a, .selectDirectory d] ∧
      Operation.run c (os ++ [.removeLost]) =
        Operation.run c [.selectDirectory d, .selectAllocation a] ∧
      (∀ m n, Operation.run r [.selectDirectory m, .selectAllocation n] =
        Operation.run r [.selectAllocation n, .selectDirectory m]) ∧
      (∀ n, (Operation.run r [.selectDirectory n, .selectDirectory d]).withoutLost =
        r.withoutLost) ∧
      (∀ n, (Operation.run r [.selectAllocation n, .selectAllocation a]).withoutLost =
        r.withoutLost) ∧
      ∀ o : Operation, o.isSelection = false → (o.apply r).card.withoutLost = r.withoutLost := by
  obtain ⟨-, -, rfl⟩ := ofImage_eq_ok.1 h
  intro r d a
  have hfollows : (opened image).Follows r := follows_run_opened image os
  have hchosen : Operation.run (opened image) [.selectDirectory d, .selectAllocation a] =
      (opened image).withCopies r.tables.directories.inUse r.tables.allocations.inUse := by
    show (((opened image).selectDirectory d).card.selectAllocation a).card = _
    rw [opened_eq_withCopies, selectDirectory_withCopies, selectAllocation_withCopies]
    rfl
  have hregular : r.withoutLost =
      Operation.run (opened image) [.selectDirectory d, .selectAllocation a] :=
    hfollows.withoutLost_eq.trans hchosen.symm
  refine ⟨hregular, hregular.trans (select_commute _ _ _), ?_, select_commute r,
    selectDirectory_back hfollows.1, selectAllocation_back hfollows.1,
    fun o ho ↦ withoutLost_apply_of_not_selection hfollows.1 ho⟩
  rw [Operation.run_append, ← hregular]
  exact removeLost_card r

/-- On a card of eight blocks of zeros, both copies of the directory are used and lost files come
and go before the first copy of the directory and the second one of the allocation table are left in
use. -/
theorem withoutLost_run_zeros : ∃ c, ofImage ⟨.fill (8 * blockSize) 0, none⟩ = .ok c ∧
    Operation.run c [.selectDirectory 1, .addLostChain (.read .empty 0) [6, 5], .selectAllocation 1,
      .selectDirectory 0, .addLost (.read .empty 0), .removeLost] =
    Operation.run c [.selectDirectory 0, .selectAllocation 1] := by
  have hsize : (⟨.fill (8 * blockSize) 0, none⟩ : Image).size = 8 * blockSize := by
    rw [Image.size, Bytes.size_fill]
  have hopen : ofImage ⟨.fill (8 * blockSize) 0, none⟩ =
      .ok (opened ⟨.fill (8 * blockSize) 0, none⟩) :=
    ofImage_eq_opened (by rw [hsize]; decide) (by rw [Image.blockCount, hsize]; decide)
  refine ⟨_, hopen, ?_⟩
  have hrun := (withoutLost_run hopen [.selectDirectory 1, .addLostChain (.read .empty 0) [6, 5],
    .selectAllocation 1, .selectDirectory 0, .addLost (.read .empty 0)]).2.2.1
  have hdirectory (c : Card) := tables_selectDirectory c 0
  have hallocation (c : Card) := tables_selectAllocation c 1
  have htables (c : Card) : (Operation.run c [.selectDirectory 1,
      .addLostChain (.read .empty 0) [6, 5], .selectAllocation 1, .selectDirectory 0,
      .addLost (.read .empty 0)]).tables = (c.selectDirectory 1).card.tables.use 0 1 := by
    simp only [Operation.run]
    rw [Operation.tables_apply_of_not_selection rfl]
    refine (hdirectory _).trans ?_
    rw [show (Operation.apply _ (.selectAllocation 1)).card.tables = _ from hallocation _,
      Operation.tables_apply_of_not_selection rfl]
    rfl
  rw [htables] at hrun
  exact hrun

end MemoryCard.Card
