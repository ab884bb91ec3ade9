import MemoryCard.Proofs.Card.Consistency

/-! # Who has which blocks

Regular files may claim a block twice, since a damaged directory can say so. Lost files never do:
however they were taken up, a lost file shares no block with any other file on the card.
-/

namespace MemoryCard.Card

/-- The files of a card are listed in two parts, and each block of a lost file has one owner. -/
structure Ownership (c : Card) : Prop where
  regularCount_le : c.regularCount ≤ c.files.length
  /-- Regular files have a slot in the directory. -/
  regular : ∀ f ∈ c.regularFiles, ∃ slot, f.origin = .regular slot
  /-- Lost files have none. -/
  lost : ∀ f ∈ c.lostFiles, ∃ basis credible, f.origin = .lost basis credible
  proper : ∀ f ∈ c.files, ProperChain c.size f.chain
  lost_regular : ∀ f ∈ c.lostFiles, ∀ g ∈ c.regularFiles, f.chain.Disjoint g.chain
  lost_lost : c.lostFiles.Pairwise fun f g ↦ f.chain.Disjoint g.chain

variable {c : Card}

namespace Consistent

/-- A recovered file touches no regular one: its blocks are unclaimed, and those of regular files
are claimed. -/
theorem disjoint_regular (h : c.Consistent) {f g : SaveFile} (hf : f ∈ c.lostFiles)
    (hg : g ∈ c.regularFiles) : f.chain.Disjoint g.chain := by
  intro b hb hb'
  have hrecovered := h.lost.recovered f hf
  exact (h.count_eq_zero (hrecovered.proper.isData b hb)).1 (hrecovered.unclaimed b hb) g hg hb'

theorem ownership (h : c.Consistent) : c.Ownership where
  regularCount_le := h.regularCount_le
  regular f hf := by
    obtain ⟨slot, horigin, -⟩ := h.exists_slot hf
    exact ⟨slot, horigin⟩
  lost f hf := (h.lost.recovered f hf).origin
  proper f hf := by
    rw [c.files_eq] at hf
    rcases List.mem_append.1 hf with hf | hf
    · exact h.proper_regular hf
    · exact (h.lost.recovered f hf).proper
  lost_regular _ hf _ hg := h.disjoint_regular hf hg
  lost_lost := h.lost.disjoint

end Consistent

/-- Every image of at least five whole blocks, and fewer than can be counted in 32 bits, can be
opened. On every card that was opened, whatever is done with it, blocks have the owners that they
should have. -/
theorem ownership_run (image : Image) :
    (5 ≤ image.size / blockSize → image.size / blockSize < 0x100000000 →
        ∃ c, ofImage image = .ok c) ∧
      ∀ c, ofImage image = .ok c → ∀ os, (Operation.run c os).Ownership := by
  constructor
  · intro hfive hcount
    exact (opens_iff hcount).2 ((Nat.le_div_iff_mul_le (by decide)).1 hfive)
  · intro c hopen os
    obtain ⟨-, -, rfl⟩ := ofImage_eq_ok.1 hopen
    exact ((consistent_opened image).run os).ownership

/-- A card of eight blocks of zeros, on which files are taken up before and after other copies of
the tables are chosen. -/
theorem ownership_run_zeros : ∃ c, ofImage ⟨.fill (8 * blockSize) 0, none⟩ = .ok c ∧
    (Operation.run c [.addLostChain (.read .empty 0) [6, 5], .selectDirectory 1,
      .selectAllocation 2, .addLostChain (.read .empty 0) [5, 7]]).Ownership := by
  have hsize : (⟨.fill (8 * blockSize) 0, none⟩ : Image).size = 8 * blockSize := by
    rw [Image.size, Bytes.size_fill]
  obtain ⟨c, hopen⟩ := (ownership_run ⟨.fill (8 * blockSize) 0, none⟩).1 (by rw [hsize]; decide)
    (by rw [hsize]; decide)
  exact ⟨c, hopen, (ownership_run _).2 c hopen _⟩

end MemoryCard.Card
