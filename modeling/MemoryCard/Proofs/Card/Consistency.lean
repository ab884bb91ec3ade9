import MemoryCard.Proofs.Card.Listing
import MemoryCard.Proofs.Card.Run

/-! # Consistent cards

A card is consistent if its regular part is what listing the tables in use gives, with the usage map
and the count that go with it, and if its lost files were taken up without touching each other or a
regular file. Opening gives a consistent card, and every operation keeps it consistent.
-/

namespace MemoryCard

namespace Card

/-- The card shows what its tables say, and the lost files lie beside that. -/
structure Consistent (c : Card) : Prop where
  settled : c.withoutLost = c.relist c.tables
  lost : c.IsBatch .empty c.lostFiles

variable {c c' : Card} {files : List SaveFile}

namespace Consistent

theorem regularFiles_eq (h : c.Consistent) :
    c.regularFiles = (Listing.ofTables c.tables c.size c.charset).files :=
  congrArg Card.files h.settled

theorem regularCount_eq (h : c.Consistent) : c.regularCount = c.regularFiles.length := by
  rw [h.regularFiles_eq]
  exact congrArg Card.regularCount h.settled

theorem usage_eq (h : c.Consistent) :
    c.usage = (Listing.ofTables c.tables c.size c.charset).usage :=
  congrArg Card.usage h.settled

theorem regularCount_le (h : c.Consistent) : c.regularCount ≤ c.files.length := by
  rw [h.regularCount_eq]
  exact List.length_take_le' _ _

/-- The usage map knows of the regular files and of nothing else. -/
theorem count_eq_zero (h : c.Consistent) {b : UInt16} (hb : isDataBlock c.size b = true) :
    c.usage.count b = 0 ↔ ∀ f ∈ c.regularFiles, b ∉ f.chain := by
  rw [h.usage_eq, h.regularFiles_eq]
  exact Listing.ofTables_count_eq_zero hb

/-- A regular file has a slot with its entry. -/
theorem exists_slot (h : c.Consistent) {f : SaveFile} (hf : f ∈ c.regularFiles) :
    ∃ slot, f.origin = .regular slot ∧ (slot, f.entry) ∈ c.tables.directory.used := by
  rw [h.regularFiles_eq] at hf
  exact Listing.mem_build_slot hf

/-- A regular file has the chain that a walk finds for its entry. -/
theorem walk_eq (h : c.Consistent) {f : SaveFile} (hf : f ∈ c.regularFiles) :
    c.tables.allocation.walk f.entry.firstBlock f.entry.length c.size =
      .ok ⟨f.chain, f.issues.defect?, f.issues.mismatch?⟩ := by
  rw [h.regularFiles_eq] at hf
  exact Listing.mem_build_walk hf

theorem isPath (h : c.Consistent) {f : SaveFile} (hf : f ∈ c.regularFiles) :
    c.tables.allocation.IsPath c.size f.chain f.issues.defect? :=
  (Allocation.walk_isPath (h.walk_eq hf)).1

theorem proper_regular (h : c.Consistent) {f : SaveFile} (hf : f ∈ c.regularFiles) :
    ProperChain c.size f.chain :=
  Allocation.walk_proper (h.walk_eq hf)

end Consistent

/-! ## Every operation keeps cards consistent -/

theorem IsRecovered.congr {f : SaveFile} (h : c.IsRecovered f) (hsize : c'.size = c.size)
    (husage : c'.usage = c.usage) : c'.IsRecovered f :=
  ⟨h.origin, hsize ▸ h.proper, husage ▸ h.unclaimed⟩

theorem IsBatch.congr {reserved : BlockSet} (h : c.IsBatch reserved files)
    (hsize : c'.size = c.size) (husage : c'.usage = c.usage) : c'.IsBatch reserved files :=
  ⟨fun f hf ↦ (h.recovered f hf).congr hsize husage, h.unreserved, h.disjoint⟩

/-- A batch that leaves alone the blocks of the files in front of it makes one batch with them. -/
theorem IsBatch.append {more : List SaveFile} (h : c.IsBatch .empty files)
    (hmore : c.IsBatch (.ofList (files.flatMap SaveFile.chain)) more) :
    c.IsBatch .empty (files ++ more) where
  recovered := List.forall_mem_append.2 ⟨h.recovered, hmore.recovered⟩
  unreserved := by simp
  disjoint := by
    refine List.pairwise_append.2 ⟨h.disjoint, hmore.disjoint, fun f hf g hg b hb hb' ↦ ?_⟩
    have := hmore.unreserved g hg b hb'
    simp only [BlockSet.contains_ofList, List.contains_eq_mem, decide_eq_false_iff_not,
      List.mem_flatMap, not_exists, not_and] at this
    exact this f hf hb

theorem lostFiles_extend (h : c.Consistent) (files : List SaveFile) :
    (c.extend files).lostFiles = c.lostFiles ++ files :=
  List.drop_append_of_le_length h.regularCount_le

theorem regularFiles_extend (h : c.Consistent) (files : List SaveFile) :
    (c.extend files).regularFiles = c.regularFiles :=
  List.take_append_of_le_length h.regularCount_le

theorem withoutLost_extend (h : c.Consistent) (files : List SaveFile) :
    (c.extend files).withoutLost = c.withoutLost :=
  congrArg (fun regular ↦ { c with files := regular }) (regularFiles_extend h files)

theorem consistent_relist (c : Card) (t : Tables) : (c.relist t).Consistent where
  settled := c.withoutLost_relist t
  lost := by
    rw [lostFiles_relist]
    exact .nil _

theorem consistent_withCopies (c : Card) (d a : Copy) : (c.withCopies d a).Consistent :=
  consistent_relist c _

theorem Consistent.withoutLost (h : c.Consistent) : c.withoutLost.Consistent := by
  rw [h.settled]
  exact consistent_relist c _

theorem Consistent.extend (h : c.Consistent) (hfiles : c.IsBatch (.ofList c.lostBlocks) files) :
    (c.extend files).Consistent where
  settled := (withoutLost_extend h files).trans h.settled
  lost := by
    rw [lostFiles_extend h]
    exact (h.lost.append hfiles).congr rfl rfl

theorem Consistent.apply (h : c.Consistent) (o : Operation) : (o.apply c).card.Consistent := by
  rcases o.apply_card c with ⟨d, a, e⟩ | ⟨files, hfiles, e⟩ | e
  · rw [e]
    exact consistent_withCopies c d a
  · rw [e]
    exact h.extend hfiles
  · rw [e]
    exact h.withoutLost

theorem consistent_opened (image : Image) : (opened image).Consistent := by
  rw [← relist_opened]
  exact consistent_relist _ _

theorem Consistent.run (h : c.Consistent) (os : List Operation) : (Operation.run c os).Consistent :=
  Operation.run_induction (P := Consistent) (fun _ o hc ↦ hc.apply o) h os

theorem Reachable.run (h : c.Reachable) (os : List Operation) : (Operation.run c os).Reachable := by
  obtain ⟨image, c₀, os', hopen, rfl⟩ := h
  exact ⟨image, c₀, os' ++ os, hopen, (Operation.run_append c₀ os' os).symm⟩

theorem Reachable.consistent (h : c.Reachable) : c.Consistent := by
  obtain ⟨image, c₀, os, hopen, rfl⟩ := h
  obtain ⟨-, -, rfl⟩ := ofImage_eq_ok.1 hopen
  exact (consistent_opened image).run os

end Card
end MemoryCard
