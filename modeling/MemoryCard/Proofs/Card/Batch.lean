import MemoryCard.Proofs.Card.Recovery

/-! # A batch of lost files against one after the other

Taking up sightings in a batch carries along the set of blocks that are taken and puts the files into
the list at the end. Taking up their entries one after the other asks the card each time which blocks
are taken. Both come to the same files, since after every entry the set that is carried along has the
blocks of the lost files that the card would have by then.
-/

namespace MemoryCard

theorem BlockSet.ofList_append (blocks more : List UInt16) :
    ofList (blocks ++ more) = (ofList blocks).insertAll more := List.foldl_append

/-- The sighting names no blocks of its own, or those that its entry names. -/
def Sighting.NamesOwn (s : Sighting) : Prop :=
  s.stop ≤ s.start ∨ s.start = s.entry.firstBlock ∧ s.stop = s.entry.stopBlock

/-- The indices of the files that an operation has added; one that failed has added none. -/
def Outcome.added (o : Outcome (List Nat)) : List Nat :=
  match o.result with
  | .ok indices => indices
  | .error _ => []

/-- What observers are told of files that were put at the end of the list. -/
def Event.insertion (first last : Nat) : List Event := [.aboutToInsert first last, .inserted]

namespace Card

variable {c : Card} {s : Sighting} {sightings : List Sighting}

/-! ## One sighting -/

theorem salvageSighting_of_namesOwn (h : s.NamesOwn) (reserved : BlockSet) :
    c.salvageSighting reserved s =
      c.salvage reserved s.entry s.entry.firstBlock s.entry.stopBlock := by
  unfold salvageSighting
  split
  · rename_i hlt
    rcases h with h | ⟨hstart, hstop⟩
    · exact absurd hlt (UInt16.not_lt.2 h)
    · rw [hstart, hstop]
  · rfl

theorem addLost_of_error {failure : Failure} (h : s.NamesOwn)
    (hrefused : c.salvageSighting (.ofList c.lostBlocks) s = .error failure) :
    c.addLost s.entry = ⟨.error failure, c, []⟩ := by
  rw [salvageSighting_of_namesOwn h] at hrefused
  rw [addLost, hrefused]
  rfl

theorem addLost_of_ok {f : SaveFile} (h : s.NamesOwn)
    (htaken : c.salvageSighting (.ofList c.lostBlocks) s = .ok f) :
    c.addLost s.entry =
      ⟨.ok c.files.length, c.extend [f], Event.insertion c.files.length c.files.length⟩ := by
  rw [salvageSighting_of_namesOwn h] at htaken
  rw [addLost, htaken]
  rfl

theorem salvage_of_isUnused {e : Entry} (h : e.isUnused = true) (reserved : BlockSet)
    (start stop : UInt16) : c.salvage reserved e start stop =
      .error (.invalidArgument "directory entry is unused") := by
  rw [salvage, propose, Proposal.ofEntry_eq_iff.2 (.unused h), error_bind]

/-- What can be taken up is refused as soon as it has been taken up. -/
theorem salvage_twice {e : Entry} {p : Proposal} {reserved : BlockSet} {start stop : UInt16}
    (hpropose : c.propose e start stop = .ok p) (hfree : c.IsFree reserved p.chain) :
    ∃ f, c.salvage reserved e start stop = .ok f ∧
      ∃ failure, c.salvage (reserved.insertAll f.chain) e start stop = .error failure := by
  refine ⟨c.lostFile e p, ?_, ?_⟩
  · rw [salvage, hpropose, ok_bind, accept_eq_ok]
    exact ⟨hfree, rfl⟩
  · obtain ⟨b, hb⟩ := List.exists_mem_of_ne_nil _ (Proposal.ofEntry_proper hpropose).ne_nil
    rw [salvage, hpropose, ok_bind]
    cases haccept : c.accept (reserved.insertAll (c.lostFile e p).chain) e p with
    | error failure => exact ⟨failure, rfl⟩
    | ok f =>
        obtain ⟨-, hdisjoint⟩ := isFree_insertAll.1 (accept_eq_ok.1 haccept).1
        exact (hdisjoint hb hb).elim

/-! ## All sightings -/

/-- More files in the list change what is reserved, and not what can be taken up beside that. -/
theorem salvageAll_extend (files : List SaveFile) (reserved : BlockSet) :
    (c.extend files).salvageAll reserved sightings = c.salvageAll reserved sightings := by
  induction sightings generalizing reserved with
  | nil => rfl
  | cons s rest ih =>
      have hsame : (c.extend files).salvageSighting reserved s = c.salvageSighting reserved s := rfl
      cases htry : c.salvageSighting reserved s with
      | error failure =>
          rw [salvageAll_cons_error (hsame.trans htry), salvageAll_cons_error htry, ih]
      | ok f => rw [salvageAll_cons_ok (hsame.trans htry), salvageAll_cons_ok htry, ih]

/-- With one more lost file, its blocks are reserved as well. -/
theorem lostBlocks_extend (h : c.Consistent) (f : SaveFile) :
    BlockSet.ofList (c.extend [f]).lostBlocks = (BlockSet.ofList c.lostBlocks).insertAll f.chain := by
  rw [lostBlocks, lostFiles_extend h, List.flatMap_append, List.flatMap_singleton,
    BlockSet.ofList_append]
  rfl

/-- The operations that take up the entries of sightings one after the other. -/
def oneByOne (sightings : List Sighting) : List Operation :=
  sightings.map fun s ↦ .addLost s.entry

/-- The files that a batch would have are taken up one after the other, each with its own message. -/
structure TakesUp (c : Card) (sightings : List Sighting) (files : List SaveFile) : Prop where
  card : Operation.run c (oneByOne sightings) = c.extend files
  added : (Operation.outcomes c (oneByOne sightings)).flatMap Outcome.added =
    List.range' c.files.length files.length
  events : (Operation.outcomes c (oneByOne sightings)).flatMap Outcome.events =
    (List.range' c.files.length files.length).flatMap fun i ↦ Event.insertion i i

theorem TakesUp.refuse {failure : Failure} {files : List SaveFile} (hs : s.NamesOwn)
    (hrefused : c.salvageSighting (.ofList c.lostBlocks) s = .error failure)
    (h : c.TakesUp sightings files) : c.TakesUp (s :: sightings) files := by
  have hstep : (Operation.addLost s.entry).apply c = ⟨.error failure, c, []⟩ := by
    rw [Operation.apply, addLost_of_error hs hrefused]
    rfl
  obtain ⟨hcard, hadded, hevents⟩ := h
  refine ⟨?_, ?_, ?_⟩
  · rw [oneByOne, List.map_cons, Operation.run, hstep]
    exact hcard
  · rw [oneByOne, List.map_cons, Operation.outcomes, List.flatMap_cons, hstep]
    exact hadded
  · rw [oneByOne, List.map_cons, Operation.outcomes, List.flatMap_cons, hstep]
    exact hevents

theorem TakesUp.take {f : SaveFile} {files : List SaveFile} (hs : s.NamesOwn)
    (htaken : c.salvageSighting (.ofList c.lostBlocks) s = .ok f)
    (h : (c.extend [f]).TakesUp sightings files) : c.TakesUp (s :: sightings) (f :: files) := by
  have hstep : (Operation.addLost s.entry).apply c =
      ⟨.ok [c.files.length], c.extend [f], Event.insertion c.files.length c.files.length⟩ := by
    rw [Operation.apply, addLost_of_ok hs htaken]
    rfl
  have hlength : (c.extend [f]).files.length = c.files.length + 1 := by simp [extend]
  obtain ⟨hcard, hadded, hevents⟩ := h
  rw [hlength] at hadded hevents
  refine ⟨?_, ?_, ?_⟩
  · rw [oneByOne, List.map_cons, Operation.run, hstep]
    exact hcard.trans (extend_extend c [f] files)
  · rw [oneByOne, List.map_cons, Operation.outcomes, List.flatMap_cons, hstep, List.length_cons,
      List.range'_succ]
    exact congrArg (c.files.length :: ·) hadded
  · rw [oneByOne, List.map_cons, Operation.outcomes, List.flatMap_cons, hstep, List.length_cons,
      List.range'_succ, List.flatMap_cons]
    exact congrArg (Event.insertion c.files.length c.files.length ++ ·) hevents

/-- The set that a batch carries along is what the card would say by then. -/
theorem takesUp_salvageAll (h : c.Consistent) (hown : ∀ s ∈ sightings, s.NamesOwn) :
    c.TakesUp sightings (c.salvageAll (.ofList c.lostBlocks) sightings) := by
  induction sightings generalizing c with
  | nil => exact ⟨(extend_nil c).symm, rfl, rfl⟩
  | cons s rest ih =>
      obtain ⟨hs, hrest⟩ := List.forall_mem_cons.1 hown
      cases htry : c.salvageSighting (.ofList c.lostBlocks) s with
      | error failure =>
          rw [salvageAll_cons_error htry]
          exact .refuse hs htry (ih h hrest)
      | ok f =>
          have hnext : (c.extend [f]).Consistent := by
            have := h.apply (.addLost s.entry)
            rwa [Operation.apply, addLost_of_ok hs htry] at this
          have htail := ih hnext hrest
          rw [lostBlocks_extend h, salvageAll_extend] at htail
          rw [salvageAll_cons_ok htry]
          exact .take hs htry htail

/-! ## The batch -/

/-- What observers are told of files with these indices if they come in one batch: one message for
all, and none if there are no files. -/
def batchEvents : List Nat → List Event
  | [] => []
  | first :: rest => Event.insertion first (first + rest.length)

theorem append_snd (c : Card) (files : List SaveFile) :
    (c.append files).2 = batchEvents (List.range' c.files.length files.length) := by
  cases files with
  | nil => rfl
  | cons f rest =>
      rw [List.length_cons, List.range'_succ]
      simp [append, batchEvents, Event.insertion]

/-- Taking up sightings in a batch leaves the card that `single` leaves, the outcomes of taking up
their entries one after the other, and gives the indices of the same files. Only the messages differ:
one for each file, or one for all. -/
structure IsBatchOf (c : Card) (sightings : List Sighting) (single : List (Outcome (List Nat))) :
    Prop where
  card : (c.addSightings sightings).card = Operation.run c (oneByOne sightings)
  result : (c.addSightings sightings).result = .ok (single.flatMap Outcome.added)
  events : (c.addSightings sightings).events = batchEvents (single.flatMap Outcome.added)
  events_single : single.flatMap Outcome.events =
    (single.flatMap Outcome.added).flatMap fun i ↦ Event.insertion i i

theorem addSightings_oneByOne (h : c.Reachable) (hown : ∀ s ∈ sightings, s.NamesOwn) :
    c.IsBatchOf sightings (Operation.outcomes c (oneByOne sightings)) := by
  obtain ⟨hcard, hadded, hevents⟩ := takesUp_salvageAll h.consistent hown
  refine ⟨?_, ?_, ?_, ?_⟩
  · rw [addSightings_card, hcard]
  · rw [hadded]
    rfl
  · rw [hadded]
    exact append_snd c _
  · rw [hadded]
    exact hevents

/-- A lost save that is named three times, without blocks of its own, with those of its entry, and
under an erased entry, is taken up once. -/
theorem addSightings_oneByOne_strayCard :
    let sightings : List Sighting := [⟨.unused, 0, .blockPool, 0, 0⟩,
      ⟨strayEntry, 0, .blockPool, 7, 7⟩, .of strayEntry (5 * blockSize) .blockPool]
    strayCard.Reachable ∧ (∀ s ∈ sightings, s.NamesOwn) ∧
      (strayCard.addSightings sightings).result = .ok [0] ∧
      strayCard.IsBatchOf sightings (Operation.outcomes strayCard (oneByOne sightings)) := by
  intro sightings
  have hown : ∀ s ∈ sightings, s.NamesOwn := by
    refine List.forall_mem_cons.2 ⟨.inl (UInt16.le_refl _), List.forall_mem_cons.2 ⟨?_, ?_⟩⟩
    · exact .inl (UInt16.le_refl _)
    · exact List.forall_mem_singleton.2 (.inr ⟨rfl, rfl⟩)
  refine ⟨reachable_strayCard, hown, ?_, addSightings_oneByOne reachable_strayCard hown⟩
  have hcredible : strayEntry.isCredible strayCard.size = true := by
    rw [size_strayCard]
    decide
  have hpropose := propose_of_isCredible hcredible
  have hproper := Proposal.ofEntry_proper hpropose
  have hfree : strayCard.IsFree .empty (strayCard.proposalFor strayEntry).chain := fun b hb ↦
    ⟨count_strayCard (hproper.isData b hb), BlockSet.contains_empty b⟩
  obtain ⟨f, htaken, failure, hrefused⟩ := salvage_twice hpropose hfree
  have hreserved : BlockSet.ofList strayCard.lostBlocks = .empty := by
    rw [lostBlocks, lostFiles, files_strayCard, List.drop_nil]
    rfl
  have hfiles : strayCard.salvageAll .empty sightings = [f] := by
    have herased : strayCard.salvageSighting .empty ⟨.unused, 0, .blockPool, 0, 0⟩ =
        .error (.invalidArgument "directory entry is unused") := by
      rw [salvageSighting_of_namesOwn (.inl (UInt16.le_refl _))]
      exact salvage_of_isUnused (by decide) _ _ _
    have hfirst : strayCard.salvageSighting .empty ⟨strayEntry, 0, .blockPool, 7, 7⟩ = .ok f := by
      rw [salvageSighting_of_namesOwn (.inl (UInt16.le_refl _))]
      exact htaken
    have hagain : strayCard.salvageSighting (BlockSet.empty.insertAll f.chain)
        (.of strayEntry (5 * blockSize) .blockPool) = .error failure := by
      rw [salvageSighting_of_namesOwn (.inr ⟨rfl, rfl⟩)]
      exact hrefused
    rw [salvageAll_cons_error herased, salvageAll_cons_ok hfirst, salvageAll_cons_error hagain]
    rfl
  rw [addSightings, hreserved, hfiles, files_strayCard]
  rfl

end Card
end MemoryCard
