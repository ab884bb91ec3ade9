import MemoryCard.Failure
import MemoryCard.Geometry
import MemoryCard.Save.Sighting

/-! # The search through a block

A block is searched for entries in steps of one length, which the caller chooses. A turn of the search
counts up to the end of the entry that may begin at its place, and when that end is behind the block the
search is over. Otherwise it looks at the entry and takes a step. Places are 64-bit words; where a sum
does not fit in a word, the program panics. Steps of no length lead nowhere, and with them a search goes
on for ever wherever an entry has room. All other searches have an outcome.
-/

namespace MemoryCard

/-- A credible entry may begin at a place: its first byte can be part of a game code, and its reserved
byte is as a game writes it. This rules out most places before an entry is read. -/
def mayBegin (data : Bytes) (pos : Nat) : Bool :=
  isCodeByte (data.byte pos) && data.byte (pos + 0x06) == 0xFF

theorem mayBegin_of_isCredible {data : Bytes} {size : UInt16} {pos : Nat}
    (h : (Entry.read data pos).isCredible size = true) : mayBegin data pos = true := by
  simp only [Entry.isCredible, Bool.and_eq_true] at h
  obtain ⟨⟨⟨⟨⟨⟨⟨hid, hreserved⟩, -⟩, -⟩, -⟩, -⟩, -⟩, -⟩ := h
  have hfirst : data.byte pos ∈ (Entry.read data pos).id := by
    simp only [Entry.id, Entry.read, List.mem_append]
    exact .inl (by simpa [Bytes.field] using ⟨(0 : Fin 4), rfl⟩)
  simp only [mayBegin, Bool.and_eq_true]
  exact ⟨List.all_eq_true.1 hid _ hfirst, hreserved⟩

/-- The entry at one place of a block, if it is credible. -/
def sightingAt? (data : Bytes) (block size : UInt16) (pos : Nat) : Option Sighting :=
  if mayBegin data pos then
    let entry := Entry.read data pos
    if entry.isCredible size then
      some (Sighting.of entry (block.toNat * blockSize + pos) .blockPool)
    else none
  else none

theorem sightingAt?_eq (data : Bytes) (block size : UInt16) (pos : Nat) :
    sightingAt? data block size pos =
      if (Entry.read data pos).isCredible size then
        some (Sighting.of (Entry.read data pos) (block.toNat * blockSize + pos) .blockPool)
      else none := by
  by_cases h : (Entry.read data pos).isCredible size = true
  · simp [sightingAt?, h, mayBegin_of_isCredible h]
  · simp [sightingAt?, h]

theorem zero_lt_max_one (alignment : UInt64) : 0 < max 1 alignment := by
  show 0 < if 1 ≤ alignment then alignment else 1
  split
  · rename_i h
    exact UInt64.lt_iff_toNat_lt.2 (UInt64.le_iff_toNat_le.1 h)
  · decide

/-- How far a search has come, and what it has found up to there. -/
structure BlockSearch where
  pos : UInt64 := 0
  found : Array Sighting := #[]

namespace BlockSearch

section

variable (data : Bytes) (block size : UInt16) (step : UInt64)

/-- What has been found when the entry at the place of the search has been looked at. -/
def look (s : BlockSearch) : Array Sighting :=
  match sightingAt? data block size s.pos.toNat with
  | some sighting => s.found.push sighting
  | none => s.found

/-- A turn of a search, after which the search is done or goes on. -/
def turn (s : BlockSearch) : Except Failure (ForInStep BlockSearch) := do
  let stop ← orPanic (sum? s.pos Entry.width.toUInt64)
  if stop.toNat ≤ data.size then
    needRange s.pos.toNat stop.toNat data.size
    return .yield ⟨← orPanic (sum? s.pos step), s.look data block size⟩
  else return .done s

end

variable {data : Bytes} {block size : UInt16} {step : UInt64} {s t : BlockSearch}

/-- A turn is possible if the end of the entry is an address, and leads on if the entry ends in the
block and the next place is an address as well. -/
theorem turn_eq (s : BlockSearch) : s.turn data block size step =
    if addressLimit ≤ s.pos.toNat + Entry.width then .error .panic
    else if data.size < s.pos.toNat + Entry.width then .ok (.done s)
    else if addressLimit ≤ s.pos.toNat + step.toNat then .error .panic
    else .ok (.yield ⟨s.pos + step, s.look data block size⟩) := by
  have hwidth : Entry.width.toUInt64.toNat = Entry.width := rfl
  unfold turn
  by_cases hend : addressLimit ≤ s.pos.toNat + Entry.width
  · rw [sum?_eq_none (hwidth ▸ hend), if_pos hend]
    rfl
  · rw [sum?_eq (hwidth ▸ Nat.not_le.1 hend), if_neg hend]
    have hstop : (s.pos + Entry.width.toUInt64).toNat = s.pos.toNat + Entry.width :=
      toNat_sum (hwidth ▸ Nat.not_le.1 hend)
    show (if (s.pos + Entry.width.toUInt64).toNat ≤ data.size then _ else _) = _
    rw [hstop]
    by_cases hinside : s.pos.toNat + Entry.width ≤ data.size
    · rw [if_pos hinside, if_neg (Nat.not_lt.2 hinside), needRange,
        if_pos ⟨Nat.le_add_right _ _, hinside⟩]
      by_cases hnext : addressLimit ≤ s.pos.toNat + step.toNat
      · rw [sum?_eq_none hnext, if_pos hnext]
        rfl
      · rw [sum?_eq (Nat.not_le.1 hnext), if_neg hnext]
        rfl
    · rw [if_neg hinside, if_pos (Nat.not_le.1 hinside)]
      rfl

/-- A search that goes on had room for an entry and is a step further. -/
theorem of_turn_eq_yield (h : s.turn data block size step = .ok (.yield t)) :
    s.pos.toNat + Entry.width ≤ data.size ∧ t.pos.toNat = s.pos.toNat + step.toNat ∧
      t.pos.toNat < addressLimit := by
  rw [turn_eq] at h
  split at h
  · cases h
  · split at h
    · cases h
    · split at h
      · cases h
      · rename_i hinside hnext
        cases h
        exact ⟨Nat.not_lt.1 hinside, toNat_sum (Nat.not_le.1 hnext), UInt64.toNat_lt _⟩

/-- Searches through these bytes in such steps come to an end. -/
def Ends (data : Bytes) (step : UInt64) : Prop := step = 0 → data.size < Entry.width

instance (data : Bytes) (step : UInt64) : Decidable (Ends data step) :=
  inferInstanceAs (Decidable (step = 0 → data.size < Entry.width))

theorem Ends.of_pos (hstep : 0 < step) : Ends data step := fun hzero ↦ by
  rw [hzero] at hstep
  cases hstep

/-- Steps of at least one byte lead somewhere. -/
theorem Ends.max_one (alignment : UInt64) : Ends data (max 1 alignment) :=
  .of_pos (zero_lt_max_one alignment)

/-- The outcome of a search: one turn after the other, until it is done. -/
def run (data : Bytes) (block size : UInt16) (step : UInt64) (hends : Ends data step)
    (s : BlockSearch) : Except Failure (List Sighting) :=
  match _hturn : s.turn data block size step with
  | .error failure => .error failure
  | .ok (.done s) => .ok s.found.toList
  | .ok (.yield t) => t.run data block size step hends
termination_by addressLimit - s.pos.toNat
decreasing_by
  obtain ⟨hinside, hnext⟩ := of_turn_eq_yield _hturn
  have hstep : step.toNat ≠ 0 := fun hzero ↦ by
    have hshort := hends (UInt64.toNat_inj.1 hzero)
    omega
  omega

theorem run_eq_turn (hends : Ends data step) (s : BlockSearch) :
    s.run data block size step hends =
      match s.turn data block size step with
      | .error failure => .error failure
      | .ok (.done s) => .ok s.found.toList
      | .ok (.yield t) => t.run data block size step hends := by
  rw [run]
  split <;> rename_i hturn <;> rw [hturn]

end BlockSearch

/-- The credible entries in the bytes of one block, looked for in steps of `step` bytes. -/
def scanBlock (data : Bytes) (block : UInt16) (step : UInt64) (size : UInt16)
    (hends : BlockSearch.Ends data step) : Except Failure (List Sighting) :=
  BlockSearch.run data block size step hends {}

end MemoryCard
