import Mathlib.Tactic.SplitIfs
import MemoryCard.Save.BlockSearch

/-! # How a search goes through a block

The places at which a search looks are the multiples of its step, as far as an entry has room there.
Each turn leads from one of them to the next, and behind the last one the search is over. It then has
looked at all of them, unless the place to which the last step led is so far away that the end of an
entry there is no address.
-/

namespace MemoryCard

variable {data : Bytes} {block size : UInt16} {step : UInt64}

/-! ## Places -/

/-- How many places of a buffer of `len` bytes an entry may begin at, `step` bytes apart. -/
def placeCount (len step : Nat) : Nat :=
  if len < Entry.width then 0 else (len - Entry.width) / step + 1

/-- The places in a buffer of `len` bytes at which an entry may begin. -/
def entryPlaces (len step : Nat) : List Nat := (List.range' 0 (placeCount len step)).map (· * step)

/-- The place to which the last step of a search through `len` bytes leads. -/
def stopPlace (len step : Nat) : Nat := placeCount len step * step

theorem lt_placeCount_iff {len step k : Nat} (hstep : 0 < step) :
    k < placeCount len step ↔ k * step + Entry.width ≤ len := by
  unfold placeCount
  split
  · omega
  · rw [Nat.lt_succ_iff, Nat.le_div_iff_mul_le hstep]
    omega

/-- Entries may begin at the multiples of a step, as long as they end inside the buffer. -/
theorem mem_entryPlaces {len step pos : Nat} (hstep : 0 < step) :
    pos ∈ entryPlaces len step ↔ ∃ k, pos = k * step ∧ k * step + Entry.width ≤ len := by
  simp only [entryPlaces, List.mem_map, List.mem_range'_1, Nat.zero_le, Nat.zero_add, true_and,
    lt_placeCount_iff hstep]
  exact ⟨fun ⟨k, hk, e⟩ ↦ ⟨k, e.symm, hk⟩, fun ⟨k, e, hk⟩ ↦ ⟨k, hk, e.symm⟩⟩

/-- In a block, the last step leaves room for an entry below the end of the addresses if the first one
does. -/
theorem stopPlace_lt_iff {step : Nat} (hstep : 0 < step) :
    stopPlace blockSize step + Entry.width < addressLimit ↔ step + Entry.width < addressLimit := by
  have hdiv : (blockSize - Entry.width) / step * step ≤ blockSize - Entry.width :=
    Nat.div_mul_le_self _ _
  rw [stopPlace, placeCount, if_neg (by decide), Nat.succ_mul]
  rcases Nat.lt_or_ge (blockSize - Entry.width) step with hlong | hshort
  · rw [Nat.div_eq_of_lt hlong, Nat.zero_mul, Nat.zero_add]
  · simp only [blockSize, Entry.width, addressLimit] at *
    omega

/-- The place behind a place of the buffer has a number, even if it is far behind the buffer. -/
theorem next_place_lt {len k : Nat} (hlen : len < 0x8000000000000000) (hstep : 0 < step.toNat)
    (hk : k < placeCount len step.toNat) : k * step.toNat + step.toNat < addressLimit := by
  have hinside := (lt_placeCount_iff hstep).1 hk
  have hword := step.toNat_lt
  simp only [Entry.width, addressLimit] at *
  rcases Nat.eq_zero_or_pos k with rfl | hpos
  · omega
  · -- a step that was made before is not longer than the buffer
    have hback : step.toNat ≤ k * step.toNat := Nat.le_mul_of_pos_left _ hpos
    omega

namespace BlockSearch

variable {s t : BlockSearch}

/-! ## Turns -/

theorem toList_look : (s.look data block size).toList =
    s.found.toList ++ (sightingAt? data block size s.pos.toNat).toList := by
  unfold look
  cases sightingAt? data block size s.pos.toNat with
  | none => exact (List.append_nil _).symm
  | some sighting => exact Array.toList_push

/-- A turn at a place of the buffer looks for an entry there and leads to the next place. -/
theorem turn_visit (hdata : data.size < 0x8000000000000000)
    (hinside : s.pos.toNat + Entry.width ≤ data.size)
    (hnext : s.pos.toNat + step.toNat < addressLimit) : s.turn data block size step =
      .ok (.yield ⟨s.pos + step, s.look data block size⟩) := by
  have hend : ¬ addressLimit ≤ s.pos.toNat + Entry.width := by
    simp only [addressLimit] at *
    omega
  rw [turn_eq, if_neg hend, if_neg (Nat.not_lt.2 hinside), if_neg (Nat.not_le.2 hnext)]

/-! ## Runs -/

section Run

variable (hends : Ends data step)

/-- At the first place that leaves no room for an entry, the search is over if it can tell. -/
theorem run_stop (hbehind : data.size < s.pos.toNat + Entry.width) :
    s.run data block size step hends = if addressLimit ≤ s.pos.toNat + Entry.width then
      .error .panic else .ok s.found.toList := by
  rw [run_eq_turn, turn_eq]
  split_ifs <;> rfl

theorem run_of_error {failure : Failure} (h : s.turn data block size step = .error failure) :
    s.run data block size step hends = .error failure := by
  rw [run_eq_turn, h]

theorem run_of_done (h : s.turn data block size step = .ok (.done t)) :
    s.run data block size step hends = .ok t.found.toList := by
  rw [run_eq_turn, h]

theorem run_of_yield (h : s.turn data block size step = .ok (.yield t)) :
    s.run data block size step hends = t.run data block size step hends := by
  rw [run_eq_turn, h]

/-- With `m` places to come, a search looks at these places and is over. -/
theorem run_eq (hdata : data.size < 0x8000000000000000) (hstep : 0 < step.toNat) {k m : Nat}
    (hplaces : k + m = placeCount data.size step.toNat) (hpos : s.pos.toNat = k * step.toNat) :
    s.run data block size step hends =
      if addressLimit ≤ stopPlace data.size step.toNat + Entry.width then .error .panic
      else .ok (s.found.toList ++ ((List.range' k m).map (· * step.toNat)).filterMap
        (sightingAt? data block size)) := by
  induction m generalizing k s with
  | zero =>
      have hstop : s.pos.toNat = stopPlace data.size step.toNat := by
        rw [hpos, stopPlace, ← hplaces, Nat.add_zero]
      have hbehind : data.size < s.pos.toNat + Entry.width := by
        refine Nat.not_le.1 fun hfits ↦ Nat.lt_irrefl k ?_
        rw [hpos, ← lt_placeCount_iff hstep, ← hplaces] at hfits
        exact hfits
      rw [run_stop hends hbehind, hstop, List.range'_zero, List.map_nil, List.filterMap_nil,
        List.append_nil]
  | succ m ih =>
      have hk : k < placeCount data.size step.toNat := by omega
      have hinside := (lt_placeCount_iff hstep).1 hk
      have hnext := next_place_lt hdata hstep hk
      rw [← hpos] at hinside hnext
      have hplace : (s.pos + step).toNat = (k + 1) * step.toNat := by
        rw [toNat_sum hnext, hpos, Nat.succ_mul]
      rw [run_of_yield hends (turn_visit hdata hinside hnext), ih (k := k + 1) (by omega) hplace,
        toList_look, List.range'_succ, List.map_cons, List.filterMap_cons, hpos, List.append_assoc]
      cases sightingAt? data block size (k * step.toNat) <;> rfl

end Run

/-! ## What a search comes through -/

/-- The search comes through `s` on its way. -/
inductive Reached (data : Bytes) (block size : UInt16) (step : UInt64) : BlockSearch → Prop where
  | start : Reached data block size step {}
  | turn {s t : BlockSearch} : Reached data block size step s →
      s.turn data block size step = .ok (.yield t) → Reached data block size step t

/-- From the start of the search some turn is the last one, and it leaves this outcome. -/
inductive EndsIn (data : Bytes) (block size : UInt16) (step : UInt64) :
    Except Failure (List Sighting) → Prop where
  | failure {s : BlockSearch} {failure : Failure} : Reached data block size step s →
      s.turn data block size step = .error failure → EndsIn data block size step (.error failure)
  | done {s t : BlockSearch} : Reached data block size step s →
      s.turn data block size step = .ok (.done t) → EndsIn data block size step (.ok t.found.toList)

/-- From wherever a search has come, its last turn leaves the outcome of the run from there. -/
theorem Reached.endsIn_run (hends : Ends data step) (h : Reached data block size step s) :
    EndsIn data block size step (s.run data block size step hends) := by
  induction s using run.induct data block size step hends with
  | case1 s failure hturn =>
      rw [run_of_error hends hturn]
      exact .failure h hturn
  | case2 s t hturn =>
      rw [run_of_done hends hturn]
      exact .done h hturn
  | case3 s t hturn ih =>
      rw [run_of_yield hends hturn]
      exact ih (h.turn hturn)

theorem Reached.run_eq_run (hends : Ends data step) (h : Reached data block size step s) :
    s.run data block size step hends = run data block size step hends {} := by
  induction h with
  | start => rfl
  | turn _ hturn ih => rw [← run_of_yield hends hturn, ih]

theorem EndsIn.eq_run (hends : Ends data step) {outcome : Except Failure (List Sighting)}
    (h : EndsIn data block size step outcome) : outcome = run data block size step hends {} := by
  cases h with
  | failure hs hturn => rw [← hs.run_eq_run hends, run_of_error hends hturn]
  | done hs hturn => rw [← hs.run_eq_run hends, run_of_done hends hturn]

/-! ## Where a search comes -/

/-- Steps of no length lead nowhere. -/
theorem Reached.pos_eq_zero (h : Reached data block size 0 s) : s.pos.toNat = 0 := by
  induction h with
  | start => rfl
  | turn _ hturn ih =>
      obtain ⟨-, hnext, -⟩ := of_turn_eq_yield hturn
      rw [hnext, ih]
      rfl

/-- With steps of no length, no turn is the last one if an entry has room. -/
theorem Reached.exists_yield (h : Reached data block size 0 s) (hdata : Entry.width ≤ data.size) :
    ∃ t, s.turn data block size 0 = .ok (.yield t) := by
  rw [turn_eq, h.pos_eq_zero, if_neg (by decide), Nat.zero_add, if_neg (Nat.not_lt.2 hdata),
    if_neg (by decide)]
  exact ⟨_, rfl⟩

section Places

variable (h : Reached data block size step s) (hstep : 0 < step.toNat)
include h hstep

/-- A search comes through places only, and if it takes a last step through the one behind them. -/
theorem Reached.place : ∃ k ≤ placeCount data.size step.toNat, s.pos.toNat = k * step.toNat := by
  induction h with
  | start => exact ⟨0, Nat.zero_le _, (Nat.zero_mul _).symm⟩
  | turn _ hturn ih =>
      obtain ⟨k, -, hpos⟩ := ih
      obtain ⟨hinside, hnext, -⟩ := of_turn_eq_yield hturn
      rw [hpos] at hinside hnext
      exact ⟨k + 1, (lt_placeCount_iff hstep).2 hinside, by rw [hnext, Nat.succ_mul]⟩

theorem Reached.le_stopPlace : s.pos.toNat ≤ stopPlace data.size step.toNat := by
  obtain ⟨k, hk, hpos⟩ := h.place hstep
  exact hpos ▸ Nat.mul_le_mul_right _ hk

/-- Wherever the search still finds room for an entry, the next place has a number. -/
theorem Reached.next_lt (hdata : data.size < 0x8000000000000000)
    (hinside : s.pos.toNat + Entry.width ≤ data.size) :
    s.pos.toNat + step.toNat < addressLimit := by
  obtain ⟨k, -, hpos⟩ := h.place hstep
  rw [hpos] at hinside ⊢
  exact next_place_lt hdata hstep ((lt_placeCount_iff hstep).2 hinside)

/-- A turn fails for one reason only: the end of the entry that may begin at its place is no address. -/
theorem Reached.turn_eq_error_iff (hdata : data.size < 0x8000000000000000) {failure : Failure} :
    s.turn data block size step = .error failure ↔
      failure = .panic ∧ addressLimit ≤ s.pos.toNat + Entry.width := by
  rw [turn_eq]
  split_ifs with hend hbehind hnext
  · exact ⟨fun e ↦ ⟨(Except.error.inj e).symm, hend⟩, fun e ↦ by rw [e.1]⟩
  · exact iff_of_false nofun fun e ↦ hend e.2
  · exact absurd hnext (Nat.not_le.2 (h.next_lt hstep hdata (Nat.not_lt.1 hbehind)))
  · exact iff_of_false nofun fun e ↦ hend e.2

end Places

end BlockSearch

/-! ## Whole searches -/

/-- A search through a block looks at every place of the block. -/
theorem scanBlock_eq (hdata : data.size < 0x8000000000000000) (hstep : 0 < step.toNat)
    (hends : BlockSearch.Ends data step) : scanBlock data block step size hends =
      if addressLimit ≤ stopPlace data.size step.toNat + Entry.width then .error .panic
      else .ok ((entryPlaces data.size step.toNat).filterMap (sightingAt? data block size)) := by
  have hstart : (BlockSearch.pos {}).toNat = 0 * step.toNat := (Nat.zero_mul _).symm
  rw [scanBlock, BlockSearch.run_eq hends hdata hstep (Nat.zero_add _) hstart]
  rfl

/-- A search that comes to an end has the outcome that its last turn leaves. -/
theorem endsIn_iff (hends : BlockSearch.Ends data step) {outcome : Except Failure (List Sighting)} :
    BlockSearch.EndsIn data block size step outcome ↔
      outcome = scanBlock data block step size hends := by
  refine ⟨BlockSearch.EndsIn.eq_run hends, ?_⟩
  rintro rfl
  exact BlockSearch.Reached.start.endsIn_run hends

/-- All other searches have no last turn. -/
theorem exists_endsIn_iff :
    (∃ outcome, BlockSearch.EndsIn data block size step outcome) ↔ BlockSearch.Ends data step := by
  refine ⟨?_, fun hends ↦ ⟨_, (endsIn_iff hends).2 rfl⟩⟩
  rintro ⟨outcome, hlast⟩ rfl
  refine Nat.not_le.1 fun hdata ↦ ?_
  rcases hlast with ⟨hs, hturn⟩ | ⟨hs, hturn⟩
  all_goals
    obtain ⟨t, hnext⟩ := hs.exists_yield hdata
    rw [hnext] at hturn
    cases hturn

end MemoryCard
