import MemoryCard.Copies

/-! # The choice between two copies

A card uses a valid copy of a table as long as there is one, and the newer one if that is valid.
Only when both are invalid does it use one that is not, and then it knows that it has no choice.
Where the copies change places, the choice follows them, unless neither validity nor the counters
decide it.
-/

namespace MemoryCard

namespace Copy

/-- The byte that names a copy. -/
def toByte (c : Copy) : UInt8 := UInt8.ofNat c.val

theorem ofByte?_toByte (c : Copy) : ofByte? c.toByte = .ok c := by
  match c with
  | 0 => rfl
  | 1 => rfl

/-- A byte above one names no copy, and every other byte names one. -/
theorem eq_toByte_or (n : UInt8) : 1 < n ∨ ∃ c : Copy, n = c.toByte := by
  by_cases h : n.toNat < 2
  · exact .inr ⟨⟨n.toNat, h⟩, by simp [toByte]⟩
  · refine .inl (UInt8.lt_iff_toNat_lt.2 ?_)
    show 1 < n.toNat
    omega

theorem toNat_toByte (c : Copy) : c.toByte.toNat = c.val := by
  match c with
  | 0 => rfl
  | 1 => rfl

theorem ne_other (c : Copy) : c ≠ c.other := by
  match c with
  | 0 => decide
  | 1 => decide

/-- There are two copies only. -/
theorem eq_of_ne_other {c d : Copy} (h : d ≠ c.other) : c = d := by
  match c, d with
  | 0, 0 | 1, 1 => rfl
  | 0, 1 | 1, 0 => exact absurd rfl h

theorem not_one_lt_toByte (c : Copy) : ¬ 1 < c.toByte := by
  match c with
  | 0 => decide
  | 1 => decide

abbrev first : Copy := ofLowestBit 0

abbrev second : Copy := ofLowestBit 1

/-- How far the second counter is ahead of the first, where counters wrap around after 16 bits. -/
def ahead (counter₀ counter₁ : UInt16) : Nat :=
  (counter₁.toNat + 0x10000 - counter₀.toNat) % 0x10000

theorem ahead_lt (counter₀ counter₁ : UInt16) : ahead counter₀ counter₁ < 0x10000 :=
  Nat.mod_lt _ (by decide)

/-- The first counter is as far ahead of the second one as is missing to a full turn. -/
theorem ahead_comm {counter₀ counter₁ : UInt16} (h : ahead counter₀ counter₁ ≠ 0) :
    ahead counter₁ counter₀ + ahead counter₀ counter₁ = 0x10000 := by
  have hfirst := counter₀.toNat_lt
  have hsecond := counter₁.toNat_lt
  simp only [ahead] at *
  omega

theorem newer_eq_one {counter₀ counter₁ : UInt16} : newer counter₀ counter₁ = 1 ↔
    1 ≤ ahead counter₀ counter₁ ∧ ahead counter₀ counter₁ ≤ 0x7FFF := by
  have hfirst := counter₀.toNat_lt
  have hsecond := counter₁.toNat_lt
  have hsub : (counter₁ - counter₀).toNat = ahead counter₀ counter₁ := by
    rw [UInt16.toNat_sub, ahead]
    omega
  have hrange : 0 < counter₁ - counter₀ ∧ counter₁ - counter₀ < 0x8000 ↔
      1 ≤ ahead counter₀ counter₁ ∧ ahead counter₀ counter₁ ≤ 0x7FFF := by
    rw [UInt16.lt_iff_toNat_lt, UInt16.lt_iff_toNat_lt, hsub]
    show 0 < _ ∧ _ < 0x8000 ↔ _
    omega
  rw [newer, ← hrange]
  split
  · rename_i h
    exact iff_of_true rfl h
  · rename_i h
    exact iff_of_false (by decide) h

theorem eq_of_eq_one_iff {c d : Copy} (h : c = 1 ↔ d = 1) : c = d := by
  match c, d with
  | 0, 0 | 1, 1 => rfl
  | 0, 1 => exact h.2 rfl
  | 1, 0 => exact (h.1 rfl).symm

theorem other_eq_one {c : Copy} : c.other = 1 ↔ ¬ c = 1 := by
  match c with
  | 0 => decide
  | 1 => decide

/-- Which of two counters is newer does not depend on which of them comes first, unless they are the
same or half a turn apart. -/
theorem newer_comm {counter₀ counter₁ : UInt16} (hsame : ahead counter₀ counter₁ ≠ 0)
    (hhalf : ahead counter₀ counter₁ ≠ 0x8000) :
    newer counter₁ counter₀ = (newer counter₀ counter₁).other := by
  have hcomm := ahead_comm hsame
  have hlt := ahead_lt counter₁ counter₀
  have hlt' := ahead_lt counter₀ counter₁
  refine eq_of_eq_one_iff ?_
  rw [newer_eq_one, other_eq_one, newer_eq_one]
  omega

/-- There are two copies, whichever is called the other one. -/
theorem forall_iff (c : Copy) {p : Copy → Prop} : (∀ d, p d) ↔ p c ∧ p c.other := by
  refine ⟨fun h ↦ ⟨h _, h _⟩, fun ⟨h, hother⟩ d ↦ ?_⟩
  by_cases hd : d = c.other
  · rwa [hd]
  · rwa [← eq_of_ne_other hd]

end Copy

namespace Selection

/-- A valid copy is active, and it is the preferred one if that is valid; or there is none, and the
preferred copy stands in. -/
theorem choose_cases (preferred : Copy) (valid : Copy → Bool) :
    (∃ c, choose preferred valid = .active c ∧ valid c = true ∧
        (valid preferred = true → c = preferred)) ∨
      (choose preferred valid = .standIn preferred ∧ ∀ c, ¬ valid c = true) := by
  unfold choose
  split
  · rename_i h
    exact .inl ⟨preferred, rfl, h, fun _ ↦ rfl⟩
  · rename_i h
    split
    · rename_i hother
      exact .inl ⟨preferred.other, rfl, hother, fun h' ↦ absurd h' h⟩
    · rename_i hother
      exact .inr ⟨rfl, (Copy.forall_iff preferred).2 ⟨h, hother⟩⟩

/-- The same selection where the copies have changed places. -/
def exchange : Selection → Selection
  | .active c => .active c.other
  | .standIn c => .standIn c.other

theorem copy_exchange (s : Selection) : s.exchange.copy = s.copy.other := by
  cases s <;> rfl

/-- The choice follows the copies where they change places. -/
theorem choose_other (preferred : Copy) (valid : Copy → Bool) :
    choose preferred.other (fun c ↦ valid c.other) = (choose preferred valid).exchange := by
  simp only [choose, Copy.other_other]
  split
  · rfl
  · split
    · rw [exchange, Copy.other_other]
    · rfl

/-- If one copy is valid and the other is not, it does not matter which of them is preferred. -/
theorem choose_eq_active {valid : Copy → Bool} {c : Copy} (hvalid : valid c = true)
    (honly : ∀ d, valid d = true → d = c) (preferred : Copy) :
    choose preferred valid = .active c := by
  rcases choose_cases preferred valid with ⟨d, hchosen, hd, -⟩ | ⟨-, hnone⟩
  · rw [hchosen, honly d hd]
  · exact absurd hvalid (hnone c)

end Selection

namespace Copies

variable {α : Type} {t : Copies α} {valid : Copy → Prop} {counter : Copy → UInt16}

/-- A card has made its choice between the copies, where `valid` says which of them are valid, and
`counter` has their counters. -/
structure IsChoice (t : Copies α) (valid : Copy → Prop) (counter : Copy → UInt16) : Prop where
  isValid_iff : ∀ c, t.isValid c.toByte = true ↔ valid c
  preferred_iff : t.preferred = 1 ↔
    1 ≤ Copy.ahead (counter 0) (counter 1) ∧ Copy.ahead (counter 0) (counter 1) ≤ 0x7FFF
  inUse_valid : (∃ c, valid c) → valid t.inUse
  inUse_preferred : valid t.preferred → t.inUse = t.preferred
  cardChoice_eq_some : (∃ c, valid c) → t.cardChoice? = some t.inUse
  cardChoice_eq_none : t.cardChoice? = none ↔ ∀ c, ¬ valid c
  bothInvalid_iff : t.bothInvalid = true ↔ ∀ c, ¬ valid c
  /-- With no valid copy, the preferred one stands in. -/
  inUse_standIn : (∀ c, ¬ valid c) → t.inUse = t.preferred

theorem IsChoice.preferred_eq (h : t.IsChoice valid counter) :
    t.preferred = Copy.newer (counter 0) (counter 1) :=
  Copy.eq_of_eq_one_iff (h.preferred_iff.trans Copy.newer_eq_one.symm)

/-- The choice that a card makes between copies that have been checked one by one. -/
def ofEach (number : α → UInt16) (copies : Copy → Checked α) : Copies α :=
  ofPair number (copies .first) (copies .second)

@[simp] theorem copy_ofEach (number : α → UInt16) (copies : Copy → Checked α) (c : Copy) :
    (ofEach number copies).copy c = copies c := by
  match c with
  | 0 => rfl
  | 1 => rfl

theorem isValid_toByte (t : Copies α) (c : Copy) : t.isValid c.toByte = (t.copy c).valid := by
  rw [isValid, Copy.ofByte?_toByte]

theorem selection_ofEach (number : α → UInt16) (copies : Copy → Checked α) :
    (ofEach number copies).selection =
      Selection.choose (ofEach number copies).preferred fun c ↦ (copies c).valid := by
  have hvalid : (fun c : Copy ↦ if c = 0 then (copies 0).valid else (copies 1).valid) =
      fun c ↦ (copies c).valid := by
    funext c
    match c with
    | 0 => rfl
    | 1 => rfl
  rw [← hvalid]
  rfl

theorem isChoice_ofEach {number : α → UInt16} {copies : Copy → Checked α}
    (hvalid : ∀ c, (copies c).valid = true ↔ valid c)
    (hcounter : ∀ c, number (copies c).table = counter c) :
    (ofEach number copies).IsChoice valid counter := by
  have hchoice := selection_ofEach number copies
  have hinUse : (ofEach number copies).inUse = (ofEach number copies).selection.copy := rfl
  have hisValid (c : Copy) : (ofEach number copies).isValid c.toByte = true ↔ valid c := by
    rw [isValid_toByte, copy_ofEach, hvalid]
  have hnewer : (ofEach number copies).preferred = 1 ↔ _ := Copy.newer_eq_one
  simp only [hcounter] at hnewer
  generalize ofEach number copies = t at *
  rcases Selection.choose_cases t.preferred fun c ↦ (copies c).valid with
    ⟨d, hchosen, hd, hpreferred⟩ | ⟨hchosen, hnone⟩
  · simp only [hvalid] at hd hpreferred
    rw [hchosen] at hchoice
    rw [hchoice] at hinUse
    have hsome : ¬ ∀ c, ¬ valid c := fun hnone ↦ hnone d hd
    exact {
      isValid_iff := hisValid
      preferred_iff := hnewer
      inUse_valid := fun _ ↦ hinUse ▸ hd
      inUse_preferred := fun h ↦ hinUse.trans (hpreferred h)
      cardChoice_eq_some := fun _ ↦ by rw [cardChoice?, hchoice, hinUse]; rfl
      cardChoice_eq_none := iff_of_false (by simp [cardChoice?, hchoice]) hsome
      bothInvalid_iff := iff_of_false (by simp [bothInvalid, hchoice, Selection.isUsable]) hsome
      inUse_standIn := fun hnone ↦ absurd hnone hsome }
  · simp only [hvalid] at hnone
    rw [hchosen] at hchoice
    rw [hchoice] at hinUse
    exact {
      isValid_iff := hisValid
      preferred_iff := hnewer
      inUse_valid := fun ⟨c, hc⟩ ↦ absurd hc (hnone c)
      inUse_preferred := fun _ ↦ hinUse
      cardChoice_eq_some := fun ⟨c, hc⟩ ↦ absurd hc (hnone c)
      cardChoice_eq_none := iff_of_true (by simp [cardChoice?, hchoice]) hnone
      bothInvalid_iff := iff_of_true (by simp [bothInvalid, hchoice, Selection.isUsable]) hnone
      inUse_standIn := fun _ ↦ hinUse }

/-! ## Copies that change places -/

/-- Which copy is to be used does not depend on where the copies stand. -/
inductive IsDecided (number : α → UInt16) (t : Copies α) : Prop
  /-- One copy is valid and the other is not. -/
  | valid (c : Copy) (hvalid : (t.copy c).valid = true)
      (honly : ∀ d, (t.copy d).valid = true → d = c)
  /-- One copy is newer than the other, whichever of them comes first. -/
  | newer (hsame : Copy.ahead (number (t.copy 0).table) (number (t.copy 1).table) ≠ 0)
      (hhalf : Copy.ahead (number (t.copy 0).table) (number (t.copy 1).table) ≠ 0x8000)

/-- The copies have changed places, and the choice has followed them. -/
structure Exchanged (t t' : Copies α) : Prop where
  copy : ∀ c, t'.copy c = t.copy c.other
  inUse : t'.inUse = t.inUse.other
  cardChoice : t'.cardChoice? = t.cardChoice?.map Copy.other

theorem bothInvalid_eq (t : Copies α) : t.bothInvalid = t.cardChoice?.isNone := by
  rw [bothInvalid, cardChoice?]
  cases t.selection <;> rfl

namespace Exchanged

variable {t' : Copies α}

theorem current (h : t.Exchanged t') : t'.current = t.current := by
  rw [Copies.current, h.copy, h.inUse, Copy.other_other, Copies.current]

theorem bothInvalid (h : t.Exchanged t') : t'.bothInvalid = t.bothInvalid := by
  rw [bothInvalid_eq, h.cardChoice, Option.isNone_map, bothInvalid_eq]

end Exchanged

theorem exchanged_ofEach {number : α → UInt16} {copies : Copy → Checked α}
    (h : (ofEach number copies).IsDecided number) :
    (ofEach number copies).Exchanged (ofEach number fun c ↦ copies c.other) := by
  have hselection : (ofEach number fun c ↦ copies c.other).selection =
      (ofEach number copies).selection.exchange := by
    rw [selection_ofEach, selection_ofEach]
    cases h with
    | valid c hvalid honly =>
        -- the preferred copy may be the same one as before, if the counters are the same
        simp only [copy_ofEach] at hvalid honly
        rw [Selection.choose_eq_active hvalid honly]
        refine Selection.choose_eq_active (by rwa [Copy.other_other]) (fun d hd ↦ ?_) _
        rw [← honly _ hd, Copy.other_other]
    | newer hsame hhalf =>
        simp only [copy_ofEach] at hsame hhalf
        rw [← Selection.choose_other]
        exact congrArg (Selection.choose · _) (Copy.newer_comm hsame hhalf)
  have hinUse (copies : Copy → Checked α) :
      (ofEach number copies).inUse = (ofEach number copies).selection.copy := rfl
  refine ⟨fun c ↦ by rw [copy_ofEach, copy_ofEach], ?_, ?_⟩
  · rw [hinUse, hselection, Selection.copy_exchange, ← hinUse]
  · rw [cardChoice?, hselection, cardChoice?]
    cases (ofEach number copies).selection <;> rfl

end Copies
end MemoryCard
