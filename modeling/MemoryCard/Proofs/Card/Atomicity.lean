import MemoryCard.Proofs.Card.Observers

/-! # Operations that fail

An operation that fails leaves no trace: the card is what it was, and nobody is told anything. For the
choice of a copy this does not go without saying, since the list of files is emptied, and observers are
told so, before the copy is looked for. It holds because this is only done for a copy that is there.
-/

namespace MemoryCard

/-- If the operation has failed, the card is still `c`, and there was no event. -/
def Outcome.IsAtomic {α : Type} (o : Outcome α) (c : Card) : Prop :=
  ∀ failure, o.result = .error failure → o.card = c ∧ o.events = []

theorem Outcome.isAtomic_of_ok {α : Type} {o : Outcome α} {c : Card} {x : α}
    (h : o.result = .ok x) : o.IsAtomic c := by
  intro failure hfailure
  rw [h] at hfailure
  cases hfailure

namespace Card

variable {c : Card}

/-! ## Choosing copies -/

/-- All that can come of choosing the copy of a table that `n` names, where `inUse` is the one in use
and `select` is how the tables make the choice. -/
inductive Chosen (c : Card) (inUse : Copy) (select : Tables → Except Failure (Tables × Bool))
    (n : UInt8) : Outcome Unit → Prop
  | refused (h : 1 < n) : Chosen c inUse select n ⟨.error (.noSuchCopy n), c, []⟩
  | kept (h : n = inUse.toByte) : Chosen c inUse select n ⟨.ok (), c, []⟩
  /-- The list is emptied, and then the tables are found to have the copy. -/
  | switched (h : n = inUse.other.toByte) (t : Tables)
      (hfound : select (c.dropFrom 0).1.tables = .ok (t, true)) :
      Chosen c inUse select n (c.switch select)

theorem tables_dropFrom (c : Card) (first : Nat) : (c.dropFrom first).1.tables = c.tables := by
  rw [dropFrom_fst]

/-- What is needed to choose between copies in this way, whichever table it is. -/
theorem Chosen.of_copies {inUse : Copy} (select : UInt8 → Tables → Except Failure (Tables × Bool))
    {choose : UInt8 → Outcome Unit}
    (hrefused : ∀ n, 1 < n → choose n = ⟨.error (.noSuchCopy n), c, []⟩)
    (hkept : choose inUse.toByte = ⟨.ok (), c, []⟩)
    (hswitched : ∀ d, inUse ≠ d → choose d.toByte = c.switch (select d.toByte))
    (hfound : ∀ d, inUse ≠ d → ∃ t, select d.toByte c.tables = .ok (t, true)) (n : UInt8) :
    c.Chosen inUse (select n) n (choose n) := by
  rcases Copy.eq_toByte_or n with hn | ⟨d, rfl⟩
  · rw [hrefused n hn]
    exact .refused hn
  · by_cases hd : d = inUse.other
    · have hne : inUse ≠ d := hd ▸ Copy.ne_other _
      obtain ⟨t, ht⟩ := hfound d hne
      rw [← c.tables_dropFrom 0] at ht
      rw [hswitched d hne]
      exact .switched (congrArg Copy.toByte hd) t ht
    · rw [← Copy.eq_of_ne_other hd, hkept]
      exact .kept rfl

theorem chosen_selectDirectory (c : Card) (n : UInt8) :
    c.Chosen c.tables.directories.inUse (·.selectDirectory n) n (c.selectDirectory n) :=
  .of_copies (fun n t ↦ t.selectDirectory n) (fun _ ↦ selectDirectory_of_one_lt)
    c.selectDirectory_inUse (fun _ ↦ selectDirectory_eq_switch)
    (fun _ h ↦ ⟨_, Tables.selectDirectory_toByte _ h⟩) n

theorem chosen_selectAllocation (c : Card) (n : UInt8) :
    c.Chosen c.tables.allocations.inUse (·.selectAllocation n) n (c.selectAllocation n) :=
  .of_copies (fun n t ↦ t.selectAllocation n) (fun _ ↦ selectAllocation_of_one_lt)
    c.selectAllocation_inUse (fun _ ↦ selectAllocation_eq_switch)
    (fun _ h ↦ ⟨_, Tables.selectAllocation_toByte _ h⟩) n

/-- A choice among the copies of a table fails for a byte that names no copy and for no other one, and
then it has not begun. -/
structure ChoosesSafely (c : Card) (inUse : Copy)
    (select : Tables → Except Failure (Tables × Bool)) (n : UInt8) (o : Outcome Unit) : Prop where
  chosen : c.Chosen inUse select n o
  atomic : o.IsAtomic c
  fails_iff : (∃ failure, o.result = .error failure) ↔ 1 < n

theorem Chosen.safely {inUse : Copy} {select : Tables → Except Failure (Tables × Bool)} {n : UInt8}
    {o : Outcome Unit} (h : c.Chosen inUse select n o) : c.ChoosesSafely inUse select n o := by
  refine ⟨h, ?_, ?_⟩
  · cases h with
    | refused h => exact fun _ _ ↦ ⟨rfl, rfl⟩
    | kept h => exact Outcome.isAtomic_of_ok rfl
    | switched h t hfound =>
        rw [tables_dropFrom] at hfound
        exact Outcome.isAtomic_of_ok (congrArg Outcome.result (switch_eq hfound))
  · cases h with
    | refused h => exact iff_of_true ⟨_, rfl⟩ h
    | kept h =>
        rw [h]
        exact iff_of_false nofun inUse.not_one_lt_toByte
    | switched h t hfound =>
        rw [tables_dropFrom] at hfound
        rw [h, switch_eq hfound]
        exact iff_of_false nofun inUse.other.not_one_lt_toByte

/-! ## All operations -/

theorem isAtomic_addSalvaged (c : Card) (file : Except Failure SaveFile) :
    (c.addSalvaged file).IsAtomic c := by
  cases file with
  | error failure => exact fun _ _ ↦ ⟨rfl, rfl⟩
  | ok file => exact Outcome.isAtomic_of_ok rfl

end Card

namespace Outcome

variable {α : Type} {o : Outcome α} {c : Card}

theorem IsAtomic.indices (h : o.IsAtomic c) (f : α → List Nat) : (o.indices f).IsAtomic c := by
  intro failure hfailure
  cases hresult : o.result with
  | error failure' => exact h failure' hresult
  | ok x =>
      rw [Outcome.indices, hresult] at hfailure
      cases hfailure

end Outcome

namespace Operation

theorem isAtomic_apply (c : Card) (o : Operation) : (o.apply c).IsAtomic c := by
  cases o with
  | selectDirectory n => exact (c.chosen_selectDirectory n).safely.atomic.indices _
  | selectAllocation n => exact (c.chosen_selectAllocation n).safely.atomic.indices _
  | addLost e => exact (c.isAtomic_addSalvaged _).indices _
  | addLostChain e chain => exact (c.isAtomic_addSalvaged _).indices _
  | addSightings sightings => exact Outcome.isAtomic_of_ok rfl
  | removeLost => exact Outcome.isAtomic_of_ok rfl

end Operation

/-- Nobody in a session notices an operation that fails. -/
theorem Session.perform_of_error {s : Session} {o : Operation} {failure : Failure}
    (h : (s.perform o).2.1 = .error failure) : s.perform o = (s, .error failure, []) := by
  obtain ⟨hcard, hevents⟩ := o.isAtomic_apply s.card failure h
  have hresult : (o.apply s.card).result = .error failure := h
  rw [perform, hcard, hevents, hresult]
  rfl

namespace Card

/-- Operations that fail leave no trace. If choosing a copy or taking up a lost file fails, the card is
as it was, and there was no event. Choosing a copy fails for bytes above one only, and then the list
has not been touched; where it is emptied, the tables have the copy that is asked for, so the list is
filled again. In a session no operation that fails, whatever it is, is noticed by anybody. -/
theorem failed_untouched (c : Card) :
    (∀ n, c.ChoosesSafely c.tables.directories.inUse (·.selectDirectory n) n
      (c.selectDirectory n)) ∧
    (∀ n, c.ChoosesSafely c.tables.allocations.inUse (·.selectAllocation n) n
      (c.selectAllocation n)) ∧
    (∀ e, (c.addLost e).IsAtomic c) ∧ (∀ e chain, (c.addLostChain e chain).IsAtomic c) ∧
    ∀ s : Session, s.card = c → ∀ o failure, (s.perform o).2.1 = .error failure →
      s.perform o = (s, .error failure, []) := by
  refine ⟨fun n ↦ (c.chosen_selectDirectory n).safely, fun n ↦ (c.chosen_selectAllocation n).safely,
    fun e ↦ c.isAtomic_addSalvaged _, fun e chain ↦ c.isAtomic_addSalvaged _, ?_⟩
  intro s _ o failure h
  exact s.perform_of_error h

/-- On a card of eight blocks of zeros there is no third copy of the directory, and a lost file cannot
have the second block. Nobody who watches is told of either attempt. -/
theorem failed_untouched_zeros : ∃ c, ofImage ⟨.fill (8 * blockSize) 0, none⟩ = .ok c ∧
    (c.selectDirectory 2).card = c ∧ (c.selectDirectory 2).events = [] ∧
    ∀ s : Session, s.card = c →
      s.perform (.addLostChain (.read .empty 0) [2]) =
        (s, .error (.corruptChain 2 (.notDataBlock 2)), []) := by
  have hsize : (⟨.fill (8 * blockSize) 0, none⟩ : Image).size = 8 * blockSize := by
    rw [Image.size, Bytes.size_fill]
  have hopen : ofImage ⟨.fill (8 * blockSize) 0, none⟩ =
      .ok (opened ⟨.fill (8 * blockSize) 0, none⟩) :=
    ofImage_eq_opened (by rw [hsize]; decide) (by rw [Image.blockCount, hsize]; decide)
  obtain ⟨hdirectory, -, -, -, hsession⟩ :=
    failed_untouched (opened ⟨.fill (8 * blockSize) 0, none⟩)
  obtain ⟨failure, hfailure⟩ := (hdirectory 2).fails_iff.2 (by decide)
  obtain ⟨hcard, hevents⟩ := (hdirectory 2).atomic failure hfailure
  exact ⟨_, hopen, hcard, hevents, fun s hs ↦ hsession s hs _ _ rfl⟩

end Card
end MemoryCard
