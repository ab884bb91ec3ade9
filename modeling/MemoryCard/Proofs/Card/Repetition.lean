import MemoryCard.Proofs.Card.Independence
import MemoryCard.Proofs.Card.Selection

/-! # Recovery, done again

A sighting that has been taken up stands in its own way from then on, and one that was refused is
refused for good, since other files only come to have more blocks. So nothing is gained by taking up the
same sightings again. Nor is anything lost by removing the lost files: a search does not look at them,
and what was taken up once can be taken up again.
-/

namespace MemoryCard

/-- What tells the saves of a search apart. -/
def SaveFile.key (f : SaveFile) : Sighting.Key := ⟨f.entry.id, f.entry.fileName, f.entry.firstBlock⟩

namespace Card

variable {c : Card} {s : Sighting} {sightings : List Sighting} {reserved : BlockSet}

/-! ## Refusals -/

/-- Whatever chain the sighting has, some file on the card has a block of it. -/
def Refuses (c : Card) (s : Sighting) : Prop :=
  ∀ p, c.Suits s p → ∃ b ∈ p.chain, c.Owns b

theorem owns_extend {files : List SaveFile} {b : UInt16} :
    (c.extend files).Owns b ↔ c.Owns b ∨ ∃ f ∈ files, b ∈ f.chain := by
  simp only [Owns, extend, List.mem_append, or_and_right, exists_or]

/-- A sighting that is refused is not taken up for more files on the card. -/
theorem Refuses.extend (h : c.Refuses s) (files : List SaveFile) : (c.extend files).Refuses s := by
  intro p hp
  obtain ⟨b, hb, howner⟩ := h p hp
  exact ⟨b, hb, owns_extend.2 (.inl howner)⟩

theorem Consistent.salvageSighting_eq_error (h : c.Consistent) (hs : c.Refuses s) :
    ∃ failure, c.salvageSighting (.ofList c.lostBlocks) s = .error failure := by
  cases htry : c.salvageSighting (.ofList c.lostBlocks) s with
  | error failure => exact ⟨failure, rfl⟩
  | ok f =>
      obtain ⟨p, hp, hfree, -⟩ := salvageSighting_eq_ok_iff.1 htry
      obtain ⟨b, hb, howner⟩ := hs p hp
      exact absurd howner ((h.isFree_iff_not_owns hp.proper.isData).1 hfree b hb)

/-- Where all sightings are refused, nothing happens. -/
theorem Consistent.addSightings_of_refuses (h : c.Consistent) (hall : ∀ s ∈ sightings, c.Refuses s) :
    c.addSightings sightings = ⟨.ok [], c, []⟩ := by
  have hnone : c.salvageAll (.ofList c.lostBlocks) sightings = [] := by
    induction sightings with
    | nil => rfl
    | cons s rest ih =>
        obtain ⟨hs, hrest⟩ := List.forall_mem_cons.1 hall
        obtain ⟨failure, hfailure⟩ := h.salvageSighting_eq_error hs
        rw [salvageAll_cons_error hfailure, ih hrest]
  rw [addSightings, hnone]
  rfl

/-- A sighting whose chain is free in front of a batch shares a block with a file of the batch, be it
its own. -/
theorem exists_mem_salvageAll (hs : s ∈ sightings) {p : Proposal} (hp : c.Suits s p)
    (hfree : c.IsFree reserved p.chain) :
    ∃ f ∈ c.salvageAll reserved sightings, ∃ b ∈ p.chain, b ∈ f.chain := by
  -- the files that are taken up in front of the sighting are reserved when its turn comes
  induction sightings generalizing reserved with
  | nil => cases hs
  | cons t rest ih =>
      cases htry : c.salvageSighting reserved t with
      | error failure =>
          rw [salvageAll_cons_error htry]
          rcases List.mem_cons.1 hs with rfl | hs
          · rw [salvageSighting_eq_ok_iff.2 ⟨p, hp, hfree, rfl⟩] at htry
            cases htry
          · exact ih hs hfree
      | ok f =>
          rw [salvageAll_cons_ok htry]
          rcases List.mem_cons.1 hs with rfl | hs
          · obtain ⟨q, hq, -, rfl⟩ := salvageSighting_eq_ok_iff.1 htry
            obtain rfl := hp.unique hq
            obtain ⟨b, hb⟩ := List.exists_mem_of_ne_nil _ hp.proper.ne_nil
            exact ⟨_, List.mem_cons_self, b, hb, hb⟩
          · by_cases hmeets : ∃ b ∈ p.chain, b ∈ f.chain
            · exact ⟨f, List.mem_cons_self, hmeets⟩
            · have hdisjoint : p.chain.Disjoint f.chain := fun b hb hb' ↦ hmeets ⟨b, hb, hb'⟩
              obtain ⟨g, hg, hmeets⟩ := ih hs (isFree_insertAll.2 ⟨hfree, hdisjoint⟩)
              exact ⟨g, List.mem_cons_of_mem f hg, hmeets⟩

/-- Once a batch has been taken up, all its sightings are refused. -/
theorem Consistent.refuses_of_mem (h : c.Consistent) (hs : s ∈ sightings) :
    (c.addSightings sightings).card.Refuses s := by
  intro p hp
  rw [addSightings_card] at hp ⊢
  change c.Suits s p at hp
  -- a chain without owners would have been free in front of the batch
  by_contra hnone
  have hunowned : ∀ b ∈ p.chain, ¬ c.Owns b ∧
      ∀ f ∈ c.salvageAll (.ofList c.lostBlocks) sightings, b ∉ f.chain := by
    intro b hb
    have := fun howner ↦ hnone ⟨b, hb, howner⟩
    simpa [owns_extend] using this
  obtain ⟨f, hf, b, hb, hb'⟩ := exists_mem_salvageAll hs hp
    ((h.isFree_iff_not_owns hp.proper.isData).2 fun b hb ↦ (hunowned b hb).1)
  exact (hunowned b hb).2 f hf hb'

/-! ## Runs -/

/-- Additions put files at the end of the list. -/
theorem exists_run_of_additions {os : List Operation} (hos : ∀ o ∈ os, o.isAddition = true) :
    ∃ files, Operation.run c os = c.extend files := by
  refine Operation.run_induction_of_mem (P := fun r ↦ ∃ files, r = c.extend files) ?_
    ⟨[], c.extend_nil.symm⟩
  rintro r o ho ⟨files, rfl⟩
  obtain ⟨more, -, hmore⟩ := Operation.apply_card_of_addition (c := c.extend files) (hos o ho)
  exact ⟨files ++ more, hmore.trans (extend_extend c files more)⟩

/-- Recovery leaves the regular part of a card as it is. -/
theorem Consistent.withoutLost_recovery (h : c.Consistent) {os : List Operation}
    (hos : ∀ o ∈ os, o.isSelection = false) : (Operation.run c os).withoutLost = c.withoutLost := by
  suffices hrun : (Operation.run c os).Consistent ∧ (Operation.run c os).withoutLost = c.withoutLost
    from hrun.2
  refine Operation.run_induction_of_mem
    (P := fun r ↦ r.Consistent ∧ r.withoutLost = c.withoutLost) ?_ ⟨h, rfl⟩
  rintro r o ho ⟨hr, hsame⟩
  exact ⟨hr.apply o, (withoutLost_apply_of_not_selection hr (hos o ho)).trans hsame⟩

/-- A search looks at the regular part of the card only. -/
theorem Consistent.scan_recovery (h : c.Consistent) {os : List Operation}
    (hos : ∀ o ∈ os, o.isSelection = false) (options : ScanOptions) :
    (Operation.run c os).scan options = c.scan options := by
  have hscan (c : Card) : c.withoutLost.scan options = c.scan options := rfl
  rw [← hscan, h.withoutLost_recovery hos, hscan]

/-- Files of a batch stand in the order of their sightings, no more than one for each. -/
theorem map_key_salvageAll_sublist (reserved : BlockSet) (sightings : List Sighting) :
    ((c.salvageAll reserved sightings).map SaveFile.key).Sublist (sightings.map Sighting.key) := by
  induction sightings generalizing reserved with
  | nil => exact .slnil
  | cons s rest ih =>
      cases htry : c.salvageSighting reserved s with
      | error failure =>
          rw [salvageAll_cons_error htry, List.map_cons]
          exact (ih reserved).cons _
      | ok f =>
          obtain ⟨p, -, -, rfl⟩ := salvageSighting_eq_ok_iff.1 htry
          rw [salvageAll_cons_ok htry, List.map_cons, List.map_cons]
          exact (ih _).cons_cons _

/-- On a card with which anything may have been done, sightings that have been taken up can be taken up
again without any effect, all or some of them, in any order and number, whatever lost files have been
added since. A search finds the same whatever lost files are added or removed, so that searching and
taking up twice gives each save once. Where there were no lost files before, removing them all gives the
same lost files again for the same sightings. -/
theorem addSightings_again (h : c.Reachable) (sightings : List Sighting) :
    (∀ os again, (∀ o ∈ os, o.isAddition = true) → (∀ s ∈ again, s ∈ sightings) →
      let r := Operation.run c (.addSightings sightings :: os)
      r.addSightings again = ⟨.ok [], r, []⟩) ∧
    (∀ os options, (∀ o ∈ os, o.isSelection = false) →
      (Operation.run c os).scan options = c.scan options) ∧
    (∀ options found, c.scan options = .ok found →
      let r := (c.addSightings found).card
      r.scan options = .ok found ∧ r.addSightings found = ⟨.ok [], r, []⟩ ∧
        ∃ files, r = c.extend files ∧ (files.map SaveFile.key).Nodup) ∧
    (c.lostFiles = [] → ∀ os, (∀ o ∈ os, o.isSelection = false) →
      (Operation.run c (os ++ [.removeLost])).addSightings sightings = c.addSightings sightings) := by
  have hagain (sightings : List Sighting) (os : List Operation) (again : List Sighting)
      (hos : ∀ o ∈ os, o.isAddition = true) (hsub : ∀ s ∈ again, s ∈ sightings) :
      (Operation.run c (.addSightings sightings :: os)).addSightings again =
        ⟨.ok [], Operation.run c (.addSightings sightings :: os), []⟩ := by
    refine (h.run _).consistent.addSightings_of_refuses fun s hs ↦ ?_
    have hrun : Operation.run c (.addSightings sightings :: os) =
        Operation.run (c.addSightings sightings).card os := rfl
    obtain ⟨files, hfiles⟩ := exists_run_of_additions (c := (c.addSightings sightings).card) hos
    rw [hrun, hfiles]
    exact (h.consistent.refuses_of_mem (hsub s hs)).extend files
  have hscan (os : List Operation) (options : ScanOptions) (hos : ∀ o ∈ os, o.isSelection = false) :
      (Operation.run c os).scan options = c.scan options := h.consistent.scan_recovery hos options
  refine ⟨hagain sightings, hscan, ?_, ?_⟩
  · intro options found hfound
    have hkeys : (found.map Sighting.key).Nodup :=
      List.pairwise_map.2 (isSearchResult_of_scan h hfound).keys
    have hsame := hscan [.addSightings found] options (List.forall_mem_singleton.2 rfl)
    exact ⟨hsame.trans hfound, hagain found [] found (List.forall_mem_nil _) fun s ↦ id,
      _, c.addSightings_card found, hkeys.sublist (map_key_salvageAll_sublist _ found)⟩
  · intro hlost os hos
    have hremoved : Operation.run c (os ++ [.removeLost]) = c := by
      rw [Operation.run_append]
      calc (Operation.run c os).removeLost.card
        _ = (Operation.run c os).withoutLost := removeLost_card _
        _ = c.withoutLost := h.consistent.withoutLost_recovery hos
        _ = c := withoutLost_eq_self hlost
    rw [hremoved]

/-- The lost save on a card is taken up once, however often this is tried, and again after it has been
removed. -/
theorem addSightings_again_strayCard :
    let s := Sighting.of strayEntry (5 * blockSize) .blockPool
    let r := Operation.run strayCard [.addSightings [s], .addLost strayEntry]
    strayCard.Reachable ∧ strayCard.scan {} = .ok [s] ∧
      strayCard.addSightings [s] = ⟨.ok [0], strayCard.extend [strayCard.fileFor s],
        Event.insertion 0 0⟩ ∧
      r.addSightings [s, s] = ⟨.ok [], r, []⟩ ∧ r.scan {} = .ok [s] ∧
      (strayCard.addSightings [s]).card.addSightings [s] =
        ⟨.ok [], (strayCard.addSightings [s]).card, []⟩ ∧
      (Operation.run strayCard ([.addSightings [s]] ++ [.removeLost])).addSightings [s] =
        strayCard.addSightings [s] := by
  intro s r
  obtain ⟨hagain, hscan, hfound, hremoved⟩ := addSightings_again reachable_strayCard [s]
  have hlost : strayCard.lostFiles = [] := by rw [lostFiles, files_strayCard, List.drop_nil]
  have hcredible : strayEntry.isCredible strayCard.size = true := by
    rw [size_strayCard]
    decide
  have hpropose : strayCard.proposeSighting s = .ok (strayCard.proposalFor strayEntry) := by
    rw [proposeSighting_eq, Sighting.bounds_of]
    exact propose_of_isCredible hcredible
  have htaken := reachable_strayCard.consistent.addSightings_singleton hpropose
    (by simp [Owns, files_strayCard])
  rw [files_strayCard] at htaken
  obtain ⟨-, hnothing, -⟩ := hfound {} [s] scan_strayCard
  refine ⟨reachable_strayCard, scan_strayCard, htaken, ?_, ?_, hnothing, ?_⟩
  · exact hagain [.addLost strayEntry] [s, s] (List.forall_mem_singleton.2 rfl) (by simp)
  · refine (hscan _ {} ?_).trans scan_strayCard
    exact List.forall_mem_cons.2 ⟨rfl, List.forall_mem_singleton.2 rfl⟩
  · exact hremoved hlost [.addSightings [s]] (List.forall_mem_singleton.2 rfl)

end Card
end MemoryCard
