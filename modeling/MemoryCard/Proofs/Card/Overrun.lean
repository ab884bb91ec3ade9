import MemoryCard.Proofs.Card.Search

/-! # Searches with long steps

The steps of a search can be as long as a 64-bit word allows. However long they are, the search through
a block comes to an end, asks for no bytes behind the block, and each place that a step leads to has a
number. Only the end of an entry at such a place need not have one: with the longest steps, the first of
them leads so far that the program panics.
-/

namespace MemoryCard

/-! ## One block -/

namespace BlockSearch

/-- All that can happen in a search through a block. -/
structure Accounted (data : Bytes) (block size : UInt16) (step : UInt64)
    (hends : Ends data step) : Prop where
  /-- The search comes to an end, and with no other outcome than the one that it has. -/
  ends : ∀ outcome, EndsIn data block size step outcome ↔
    outcome = scanBlock data block step size hends
  /-- Wherever an entry has room, the next place has a number. -/
  next : ∀ s, Reached data block size step s → s.pos.toNat + Entry.width ≤ data.size →
    s.pos.toNat + step.toNat < addressLimit
  /-- The bytes of an entry that is looked at are in the block. A turn only fails where the end of an
  entry has no number. -/
  failure : ∀ s, Reached data block size step s → ∀ failure,
    s.turn data block size step = .error failure ↔
      failure = .panic ∧ addressLimit ≤ s.pos.toNat + Entry.width
  /-- The search gets there exactly if its first step leads there. -/
  far : (∃ s, Reached data block size step s ∧ addressLimit ≤ s.pos.toNat + Entry.width) ↔
    addressLimit ≤ step.toNat + Entry.width

variable {data : Bytes} {block size : UInt16} {step : UInt64}

/-- From the start of a block, a search takes at least one step. -/
theorem reached_first (hdata : data.size = blockSize) : ∃ s, Reached data block size step s ∧
    s.pos = step := by
  have hinside : (pos {}).toNat + Entry.width ≤ data.size := by
    rw [hdata]
    decide
  have hturn : turn data block size step {} = .ok (.yield ⟨0 + step, look data block size {}⟩) := by
    refine turn_visit (by rw [hdata]; decide) hinside ?_
    show 0 + step.toNat < addressLimit
    rw [Nat.zero_add]
    exact step.toNat_lt
  exact ⟨_, .turn .start hturn, UInt64.zero_add step⟩

theorem accounted (hdata : data.size = blockSize) (hends : Ends data step) :
    Accounted data block size step hends := by
  have hlt : 0 < step.toNat := Nat.pos_of_ne_zero fun hzero ↦ by
    have hshort := hends (UInt64.toNat_inj.1 hzero)
    rw [hdata] at hshort
    exact absurd hshort (by decide)
  have hsmall : data.size < 0x8000000000000000 := by
    rw [hdata]
    decide
  refine ⟨fun _ ↦ endsIn_iff hends, fun s hs ↦ hs.next_lt hlt hsmall,
    fun s hs failure ↦ hs.turn_eq_error_iff hlt hsmall, ?_, fun hlong ↦ ?_⟩
  · rintro ⟨s, hs, hfar⟩
    rw [← Nat.not_lt, ← stopPlace_lt_iff hlt, Nat.not_lt, ← hdata]
    exact Nat.le_trans hfar (Nat.add_le_add_right (hs.le_stopPlace hlt) _)
  · have hfirst : ∃ s, Reached data block size step s ∧ s.pos = step := reached_first hdata
    obtain ⟨s, hs, hpos⟩ := hfirst
    exact ⟨s, hs, hpos ▸ hlong⟩

end BlockSearch

/-! ## All blocks -/

namespace Card

variable {c : Card} {o : ScanOptions}

/-- Data blocks are searched in steps so long that an entry behind the first step would end behind the
last address. -/
structure Overruns (c : Card) (o : ScanOptions) : Prop where
  searched : o.blockPool = true
  unclaimed : c.unclaimedBlocks ≠ []
  long : addressLimit ≤ o.alignment.toNat + Entry.width

theorem Overruns.scan_eq_error (hc : c.Reachable) (h : c.Overruns o) :
    c.scan o = .error .panic := by
  obtain ⟨block, rest, hblocks⟩ := List.exists_cons_of_ne_nil h.unclaimed
  have hblock : block ∈ c.unclaimedBlocks := hblocks ▸ List.mem_cons_self
  obtain ⟨data, hdata⟩ := hc.block_eq_ok (mem_unclaimedBlocks.1 hblock).1
  have hlong : addressLimit ≤ max 1 o.alignment.toNat + Entry.width :=
    Nat.le_trans h.long (Nat.add_le_add_right (Nat.le_max_right _ _) _)
  rw [scan_eq_scanInOrder, scanInOrder, if_pos h.searched, scanBlocks, hblocks, List.mapM_cons,
    scanDataBlock_of_block_eq_ok hdata, if_pos hlong]
  rfl

theorem scan_eq_ok_of_not_overruns (h : ¬ c.Overruns o) : ∃ found, c.scan o = .ok found := by
  rw [scan_eq_scanInOrder, scanInOrder]
  split_ifs with hsearched
  · by_cases hblocks : c.unclaimedBlocks = []
    · exact ⟨_, by rw [hblocks, scanBlocks, List.mapM_nil]; rfl⟩
    · have hshort : ¬ addressLimit ≤ o.alignment.toNat + Entry.width := fun hlong ↦
        h ⟨hsearched, hblocks, hlong⟩
      have hfits : o.step + Entry.width < addressLimit := by
        simp only [ScanOptions.step, Entry.width, addressLimit] at *
        omega
      exact ⟨_, by rw [scanBlocks_eq_ok hfits]; rfl⟩
  · exact ⟨_, rfl⟩

/-- On every card that can be reached and with every choice of options, a search comes to an end; this
is so because steps of no length, which alone would lead nowhere, are not taken. It looks at no bytes
behind a block, and each place that a step leads to has a number. The end of an entry has one too at
every place, and so the search has a result, unless data blocks are searched in steps that lead right
to the end of the addresses. -/
theorem scan_inWords (h : c.Reachable) (o : ScanOptions) :
    (∀ b ∈ c.unclaimedBlocks, ∃ data, c.image.block b.toNat = .ok data ∧ data.size = blockSize ∧
        BlockSearch.Accounted data b c.size (max 1 o.alignment) (.max_one o.alignment) ∧
        ((∃ outcome, BlockSearch.EndsIn data b c.size o.alignment outcome) ↔ o.alignment ≠ 0)) ∧
      ((∃ found, c.scan o = .ok found) ↔ ¬ c.Overruns o) ∧
      (c.scan o = .error .panic ↔ c.Overruns o) := by
  have herror : c.Overruns o → c.scan o = .error .panic := Overruns.scan_eq_error h
  refine ⟨fun b hb ↦ ?_, ⟨?_, scan_eq_ok_of_not_overruns⟩, ⟨?_, herror⟩⟩
  · obtain ⟨data, hdata⟩ := h.block_eq_ok (mem_unclaimedBlocks.1 hb).1
    have hsize := Image.size_block hdata
    have hlong : ¬ data.size < Entry.width := by
      rw [hsize]
      decide
    refine ⟨data, hdata, hsize, BlockSearch.accounted hsize _, exists_endsIn_iff.trans ?_⟩
    exact ⟨fun hends hzero ↦ hlong (hends hzero), fun hstep hzero ↦ absurd hzero hstep⟩
  · rintro ⟨found, hfound⟩ hover
    rw [herror hover] at hfound
    cases hfound
  · intro hfailed
    by_contra hshort
    obtain ⟨found, hfound⟩ := scan_eq_ok_of_not_overruns hshort
    rw [hfailed] at hfound
    cases hfound

theorem unclaimed_strayCard : 5 ∈ strayCard.unclaimedBlocks := by
  have hdata : isDataBlock strayCard.size 5 = true := by
    rw [size_strayCard]
    decide
  exact mem_unclaimedBlocks.2 ⟨hdata, count_strayCard hdata⟩

/-- Steps of no length and the longest steps that leave room for an entry are fine, and steps that are
longer by one are not. -/
theorem scan_inWords_strayCard : strayCard.Reachable ∧
    (∃ found, strayCard.scan { alignment := 0 } = .ok found) ∧
    (∃ found, strayCard.scan { alignment := 0xFFFFFFFFFFFFFFBF } = .ok found) ∧
    strayCard.scan { alignment := 0xFFFFFFFFFFFFFFC0 } = .error .panic := by
  have hreach := reachable_strayCard
  refine ⟨hreach, ?_, ?_, ?_⟩
  · exact (scan_inWords hreach _).2.1.2 fun hover ↦ absurd hover.long (by decide)
  · exact (scan_inWords hreach _).2.1.2 fun hover ↦ absurd hover.long (by decide)
  · exact (scan_inWords hreach _).2.2.2 ⟨rfl, List.ne_nil_of_mem unclaimed_strayCard, by decide⟩

/-- With the longest steps there are, the end of the second entry of a block has no number. The search
through a single block of zeros panics, and so does that through the card. -/
theorem scan_overruns_strayCard : strayCard.Reachable ∧
    scanBlock (.fill blockSize 0) 5 0xFFFFFFFFFFFFFFFF 64 (.of_pos (by decide)) = .error .panic ∧
    (∃ b ∈ strayCard.unclaimedBlocks, ∃ data s, strayCard.image.block b.toNat = .ok data ∧
      BlockSearch.Reached data b strayCard.size 0xFFFFFFFFFFFFFFFF s ∧
      sum? s.pos Entry.width.toUInt64 = none) ∧
    strayCard.scan { alignment := 0xFFFFFFFFFFFFFFFF } = .error .panic ∧
    ¬ ∃ found, strayCard.scan { alignment := 0xFFFFFFFFFFFFFFFF } = .ok found := by
  have hscan : strayCard.scan { alignment := 0xFFFFFFFFFFFFFFFF } = .error .panic :=
    Overruns.scan_eq_error reachable_strayCard
      ⟨rfl, List.ne_nil_of_mem unclaimed_strayCard, by decide⟩
  refine ⟨reachable_strayCard, ?_, ?_, hscan, ?_⟩
  · rw [scanBlock_eq (by rw [Bytes.size_fill]; decide) (by decide), Bytes.size_fill, if_pos (by decide)]
  · obtain ⟨data, hdata⟩ :=
      reachable_strayCard.block_eq_ok (mem_unclaimedBlocks.1 unclaimed_strayCard).1
    obtain ⟨s, hs, hpos⟩ := BlockSearch.reached_first (Image.size_block hdata)
    exact ⟨5, unclaimed_strayCard, data, s, hdata, hs, by rw [hpos]; decide⟩
  · rintro ⟨found, hfound⟩
    rw [hscan] at hfound
    cases hfound

end Card
end MemoryCard
