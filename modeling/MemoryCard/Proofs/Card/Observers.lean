import MemoryCard.Proofs.Card.Run

/-! # What observers are told

Observers are told of the file list in ranges. Whoever follows these ranges on a counter, from the
length that the list has on joining, knows the length of the list after every operation. Putting the
other copy of a table in use ends in one message about the blocks, and an operation that leaves the
card as it is goes unnoticed.
-/

namespace MemoryCard

namespace Event

/-- The length of a list of `n` files after some events. There is none if a range does not lie at
the end of the list, or if a change is not confirmed right after its announcement. -/
def replay? (n : Nat) : List Event → Option Nat
  | [] => some n
  | .aboutToInsert first last :: .inserted :: rest =>
    if first = n ∧ first ≤ last then replay? (n + (last - first + 1)) rest else none
  | .aboutToRemove first last :: .removed :: rest =>
    if last + 1 = n ∧ first ≤ last then replay? (n - (last - first + 1)) rest else none
  | .blockCount _ _ :: rest => replay? n rest
  | _ => none

theorem replay?_append {n m : Nat} {es : List Event} (h : replay? n es = some m)
    (es' : List Event) : replay? n (es ++ es') = replay? m es' := by
  fun_induction replay? n es with
  | case1 n =>
      cases h
      rfl
  | case2 n first last rest hrange ih =>
      rw [List.cons_append, List.cons_append, replay?, if_pos hrange]
      exact ih h
  | case3 => cases h
  | case4 n first last rest hrange ih =>
      rw [List.cons_append, List.cons_append, replay?, if_pos hrange]
      exact ih h
  | case5 => cases h
  | case6 n _ _ rest ih => exact ih h
  | case7 => cases h

/-- The event says something about the blocks of the card. -/
def isBlockCount : Event → Bool
  | .blockCount _ _ => true
  | _ => false

end Event

namespace Observers

/-- What the observer with the number `i` was told. -/
def heard (i : Nat) (told : List (Nat × Event)) : List Event :=
  (told.filter fun t ↦ t.1 == i).map Prod.snd

theorem heard_append (i : Nat) (told told' : List (Nat × Event)) :
    heard i (told ++ told') = heard i told ++ heard i told' := by
  simp [heard]

theorem heard_deliver (o : Observers) (i : Nat) (e : Event) :
    heard i (o.deliver e) = if i < o.count then [e] else [] := by
  have hnumbers : (List.range o.count).filter (· == i) = if i < o.count then [i] else [] := by
    rw [List.filter_beq, List.nodup_range.count]
    simp only [List.mem_range]
    split <;> rfl
  have hdeliver : heard i (o.deliver e) =
      ((List.range o.count).filter (· == i)).map fun _ ↦ e := by
    simp [heard, deliver, List.filter_map, Function.comp_def]
  rw [hdeliver, hnumbers]
  split <;> rfl

/-- An observer hears all events in their order, and none from before it has subscribed. -/
theorem heard_deliverAll (o : Observers) (i : Nat) (es : List Event) :
    heard i (o.deliverAll es) = if i < o.count then es else [] := by
  induction es with
  | nil => simp [deliverAll, heard]
  | cons e rest ih =>
      have hstep : o.deliverAll (e :: rest) = o.deliver e ++ o.deliverAll rest := rfl
      rw [hstep, heard_append, heard_deliver, ih]
      split <;> rfl

end Observers

/-! ## Events of the operations -/

namespace Card

variable {c : Card}

theorem replay?_dropFrom (c : Card) (first : Nat) :
    Event.replay? c.files.length (c.dropFrom first).2 =
      some (c.dropFrom first).1.files.length := by
  unfold dropFrom
  split
  · rfl
  · rename_i h
    have hrange : c.files.length - 1 + 1 = c.files.length ∧ first ≤ c.files.length - 1 := by omega
    rw [Event.replay?, if_pos hrange, Event.replay?, List.length_take]
    congr 1
    omega

theorem replay?_append (c : Card) (files : List SaveFile) :
    Event.replay? c.files.length (c.append files).2 = some (c.append files).1.files.length := by
  unfold append
  split
  · rfl
  · rename_i h
    have hpos : 0 < files.length := List.length_pos_iff_ne_nil.2 fun e ↦ h (by simp [e])
    have hrange : c.files.length = c.files.length ∧
        c.files.length ≤ c.files.length + files.length - 1 := by omega
    rw [Event.replay?, if_pos hrange, Event.replay?, List.length_append]
    congr 1
    omega

theorem not_isBlockCount_dropFrom (c : Card) (first : Nat) :
    ∀ e ∈ (c.dropFrom first).2, e.isBlockCount = false := by
  unfold dropFrom
  split <;> simp [Event.isBlockCount]

theorem not_isBlockCount_append (c : Card) (files : List SaveFile) :
    ∀ e ∈ (c.append files).2, e.isBlockCount = false := by
  unfold append
  split <;> simp [Event.isBlockCount]

theorem dropFrom_events_eq_nil {first : Nat} :
    (c.dropFrom first).2 = [] ↔ (c.dropFrom first).1 = c := by
  unfold dropFrom
  split
  · simp
  · rename_i h
    simp only [List.cons_ne_nil, false_iff]
    intro e
    have hlength := congrArg (List.length ∘ Card.files) e
    simp only [Function.comp_apply, List.length_take] at hlength
    omega

theorem append_events_eq_nil {files : List SaveFile} :
    (c.append files).2 = [] ↔ (c.append files).1 = c := by
  unfold append
  split
  · simp
  · rename_i h
    simp only [List.cons_ne_nil, false_iff]
    intro e
    have hfiles : c.files ++ files = c.files := congrArg Card.files e
    exact h (by simpa using hfiles)

/-- What is told while the list of `c` gives way to that of `r`: it is emptied and filled again, and
then there is a message about the blocks. -/
def relistEvents (c r : Card) : List Event :=
  (c.dropFrom 0).2 ++ (append { r with files := [] } r.files).2 ++ [.blockCount r.dataSize r.free]

theorem switch_eq {select : Tables → Except Failure (Tables × Bool)} {t : Tables} {changed : Bool}
    (h : select c.tables = .ok (t, changed)) :
    c.switch select = ⟨.ok (), c.relist t, c.relistEvents (c.relist t)⟩ := by
  have hcard := switch_card h
  have hempty : (c.dropFrom 0).1 = { c with files := [] } := by simp [dropFrom_fst]
  unfold switch at hcard ⊢
  rw [show c.dropFrom 0 = ((c.dropFrom 0).1, (c.dropFrom 0).2) from rfl, hempty] at hcard ⊢
  simp only [h] at hcard ⊢
  rw [hcard]
  rfl

theorem selectDirectory_eq_switch {d : Copy} (h : c.tables.directories.inUse ≠ d) :
    c.selectDirectory d.toByte = c.switch (·.selectDirectory d.toByte) := by
  rw [selectDirectory, if_neg d.not_one_lt_toByte, Copy.toNat_toByte,
    if_neg fun e ↦ h (Fin.ext e.symm)]

theorem selectAllocation_eq_switch {a : Copy} (h : c.tables.allocations.inUse ≠ a) :
    c.selectAllocation a.toByte = c.switch (·.selectAllocation a.toByte) := by
  rw [selectAllocation, if_neg a.not_one_lt_toByte, Copy.toNat_toByte,
    if_neg fun e ↦ h (Fin.ext e.symm)]

theorem selectDirectory_of_ne {d : Copy} (h : c.tables.directories.inUse ≠ d) :
    c.selectDirectory d.toByte =
      let r := c.withCopies d c.tables.allocations.inUse
      ⟨.ok (), r, c.relistEvents r⟩ := by
  rw [selectDirectory_eq_switch h]
  exact switch_eq (Tables.selectDirectory_toByte _ h)

theorem selectAllocation_of_ne {a : Copy} (h : c.tables.allocations.inUse ≠ a) :
    c.selectAllocation a.toByte =
      let r := c.withCopies c.tables.directories.inUse a
      ⟨.ok (), r, c.relistEvents r⟩ := by
  rw [selectAllocation_eq_switch h]
  exact switch_eq (Tables.selectAllocation_toByte _ h)

theorem selectDirectory_inUse (c : Card) :
    c.selectDirectory c.tables.directories.inUse.toByte = ⟨.ok (), c, []⟩ := by
  rw [selectDirectory, if_neg (Copy.not_one_lt_toByte _), Copy.toNat_toByte, if_pos rfl]

theorem selectAllocation_inUse (c : Card) :
    c.selectAllocation c.tables.allocations.inUse.toByte = ⟨.ok (), c, []⟩ := by
  rw [selectAllocation, if_neg (Copy.not_one_lt_toByte _), Copy.toNat_toByte, if_pos rfl]

/-- The account of relisting leads from the length of one list to that of the other. -/
theorem replay?_relistEvents (c r : Card) :
    Event.replay? c.files.length (c.relistEvents r) = some r.files.length := by
  have hremoved := replay?_dropFrom c 0
  have hinserted := replay?_append { r with files := [] } r.files
  simp only [dropFrom_fst, append_fst, extend, List.take_zero, List.nil_append,
    List.length_nil] at hremoved hinserted
  rw [relistEvents, List.append_assoc, Event.replay?_append hremoved,
    Event.replay?_append hinserted]
  rfl

end Card

namespace Operation

variable {c : Card} {o : Operation}

/-- The operation names the copy of a table that is not in use. -/
def IsSwitch (c : Card) : Operation → Prop
  | selectDirectory n => n = c.tables.directories.inUse.other.toByte
  | selectAllocation n => n = c.tables.allocations.inUse.other.toByte
  | _ => False

/-- All that an operation can leave behind that puts no other copy of a table in use. -/
inductive Effect (c : Card) : Outcome (List Nat) → Prop
  | refused (failure : Failure) : Effect c ⟨.error failure, c, []⟩
  | added (files : List SaveFile) : Effect c
      ⟨.ok (List.range' c.files.length files.length), (c.append files).1, (c.append files).2⟩
  | removed : Effect c ⟨.ok [], (c.dropFrom c.regularCount).1, (c.dropFrom c.regularCount).2⟩

/-- Putting the other copy of a table in use lists the regular files anew and tells of it. -/
theorem apply_of_isSwitch (h : o.IsSwitch c) : ∃ d a, c.withCopies d a ≠ c ∧
    o.apply c = ⟨.ok [], c.withCopies d a, c.relistEvents (c.withCopies d a)⟩ := by
  cases o with
  | selectDirectory n =>
      have hne : c.tables.directories.inUse ≠ c.tables.directories.inUse.other := Copy.ne_other _
      refine ⟨c.tables.directories.inUse.other, c.tables.allocations.inUse, fun e ↦ hne ?_, ?_⟩
      · exact (congrArg (fun c ↦ c.tables.directories.inUse) e).symm
      · rw [show n = _ from h, apply, Card.selectDirectory_of_ne hne]
        rfl
  | selectAllocation n =>
      have hne : c.tables.allocations.inUse ≠ c.tables.allocations.inUse.other := Copy.ne_other _
      refine ⟨c.tables.directories.inUse, c.tables.allocations.inUse.other, fun e ↦ hne ?_, ?_⟩
      · exact (congrArg (fun c ↦ c.tables.allocations.inUse) e).symm
      · rw [show n = _ from h, apply, Card.selectAllocation_of_ne hne]
        rfl
  | addLost e => cases h
  | addLostChain e chain => cases h
  | addSightings sightings => cases h
  | removeLost => cases h

theorem effect_addSalvaged (c : Card) (file : Except Failure SaveFile) :
    Effect c ((c.addSalvaged file).indices fun i ↦ [i]) := by
  cases file with
  | error failure => exact .refused failure
  | ok file => exact .added [file]

theorem effect_of_not_isSwitch (h : ¬ o.IsSwitch c) : Effect c (o.apply c) := by
  cases o with
  | selectDirectory n =>
      rcases Copy.eq_toByte_or n with hn | ⟨d, rfl⟩
      · rw [apply, Card.selectDirectory_of_one_lt hn]
        exact .refused _
      · have hsame : c.tables.directories.inUse = d :=
          Copy.eq_of_ne_other fun e ↦ h (congrArg Copy.toByte e)
        rw [apply, ← hsame, Card.selectDirectory_inUse]
        exact .added []
  | selectAllocation n =>
      rcases Copy.eq_toByte_or n with hn | ⟨a, rfl⟩
      · rw [apply, Card.selectAllocation_of_one_lt hn]
        exact .refused _
      · have hsame : c.tables.allocations.inUse = a :=
          Copy.eq_of_ne_other fun e ↦ h (congrArg Copy.toByte e)
        rw [apply, ← hsame, Card.selectAllocation_inUse]
        exact .added []
  | addLost e => exact effect_addSalvaged c _
  | addLostChain e chain => exact effect_addSalvaged c _
  | addSightings sightings => exact .added _
  | removeLost => exact .removed

/-- The events of an operation lead from the length of the list before it to that behind it. -/
theorem replay?_events (c : Card) (o : Operation) :
    Event.replay? c.files.length (o.apply c).events = some (o.apply c).card.files.length := by
  by_cases h : o.IsSwitch c
  · obtain ⟨d, a, -, e⟩ := apply_of_isSwitch h
    rw [e]
    exact Card.replay?_relistEvents c _
  · have heffect := effect_of_not_isSwitch h
    generalize o.apply c = outcome at heffect ⊢
    cases heffect with
    | refused failure => rfl
    | added files => exact Card.replay?_append c files
    | removed => exact Card.replay?_dropFrom c _

/-- An operation that leaves the card as it is has no events, and no other has none. -/
theorem events_eq_nil (c : Card) (o : Operation) :
    (o.apply c).events = [] ↔ (o.apply c).card = c := by
  by_cases h : o.IsSwitch c
  · obtain ⟨d, a, hne, e⟩ := apply_of_isSwitch h
    simp [e, hne, Card.relistEvents]
  · have heffect := effect_of_not_isSwitch h
    generalize o.apply c = outcome at heffect ⊢
    cases heffect with
    | refused failure => exact iff_of_true rfl rfl
    | added files => exact Card.append_events_eq_nil
    | removed => exact Card.dropFrom_events_eq_nil

theorem not_isBlockCount_of_not_isSwitch (h : ¬ o.IsSwitch c) :
    ∀ e ∈ (o.apply c).events, e.isBlockCount = false := by
  have heffect := effect_of_not_isSwitch h
  generalize o.apply c = outcome at heffect ⊢
  cases heffect with
  | refused failure => simp
  | added files => exact Card.not_isBlockCount_append c files
  | removed => exact Card.not_isBlockCount_dropFrom c _

theorem events_of_refused {failure : Failure} (h : (o.apply c).result = .error failure) :
    (o.apply c).events = [] := by
  by_cases hswitch : o.IsSwitch c
  · obtain ⟨d, a, -, e⟩ := apply_of_isSwitch hswitch
    rw [e] at h
    cases h
  · have heffect := effect_of_not_isSwitch hswitch
    generalize o.apply c = outcome at heffect h ⊢
    cases heffect with
    | refused _ => rfl
    | added files => cases h
    | removed => cases h

/-- What `told` says of an operation on the card `c` is true, complete and in order. -/
structure IsAccount (c : Card) (o : Operation) (told : List Event) : Prop where
  /-- The announced ranges lead from the length of the list before to that behind. -/
  replay : Event.replay? c.files.length told = some (o.apply c).card.files.length
  /-- Putting the other copy of a table in use succeeds, and the last event and no other one says
  how many data blocks there are and how many of them the table in use counts as free. -/
  switched : o.IsSwitch c → (o.apply c).result = .ok [] ∧ ∃ front,
    told = front ++ [.blockCount (o.apply c).card.dataSize (o.apply c).card.tables.allocation.free] ∧
      ∀ e ∈ front, e.isBlockCount = false
  not_switched : ¬ o.IsSwitch c → ∀ e ∈ told, e.isBlockCount = false
  unnoticed : told = [] ↔ (o.apply c).card = c
  refused : ∀ failure, (o.apply c).result = .error failure → told = []
  nothing_added : ∀ sightings, o = .addSightings sightings → (o.apply c).result = .ok [] → told = []
  nothing_removed : o = .removeLost → c.lostFiles = [] → told = []
  directory_reselected : o = .selectDirectory c.tables.directories.inUse.toByte → told = []
  allocation_reselected : o = .selectAllocation c.tables.allocations.inUse.toByte → told = []

theorem isAccount_events (c : Card) (o : Operation) : IsAccount c o (o.apply c).events where
  replay := replay?_events c o
  switched h := by
    obtain ⟨d, a, -, e⟩ := apply_of_isSwitch h
    rw [e]
    refine ⟨rfl, _, rfl, List.forall_mem_append.2 ⟨?_, ?_⟩⟩
    · exact Card.not_isBlockCount_dropFrom c 0
    · exact Card.not_isBlockCount_append _ _
  not_switched := not_isBlockCount_of_not_isSwitch
  unnoticed := events_eq_nil c o
  refused _ := events_of_refused
  nothing_added := by
    rintro sightings rfl h
    simp only [apply, Card.addSightings, Except.ok.injEq, List.range'_eq_nil_iff,
      List.length_eq_zero_iff] at h
    rw [events_eq_nil, apply, Card.addSightings_card, h, Card.extend_nil]
  nothing_removed := by
    rintro rfl h
    rw [events_eq_nil]
    exact (Card.removeLost_card c).trans (Card.withoutLost_eq_self h)
  directory_reselected := by
    rintro rfl
    rw [apply, Card.selectDirectory_inUse]
    rfl
  allocation_reselected := by
    rintro rfl
    rw [apply, Card.selectAllocation_inUse]
    rfl

end Operation

/-! ## Sessions -/

/-- What can happen in a session: somebody carries out an operation or joins as an observer. -/
inductive Session.Move where
  | perform (o : Operation)
  | subscribe
deriving DecidableEq

namespace Session

variable {s : Session} {i : Nat}

/-- The session after a move, and what the observers are told during it. -/
def move (s : Session) : Move → Session × List (Nat × Event)
  | .perform o => ((s.perform o).1, (s.perform o).2.2)
  | .subscribe => (s.subscribe, [])

/-- The session after some moves, and what the observers are told during all of them. -/
def play (s : Session) : List Move → Session × List (Nat × Event)
  | [] => (s, [])
  | m :: rest => ((play (s.move m).1 rest).1, (s.move m).2 ++ (play (s.move m).1 rest).2)

theorem play_append (s : Session) (moves moves' : List Move) : s.play (moves ++ moves') =
    (((s.play moves).1.play moves').1, (s.play moves).2 ++ ((s.play moves).1.play moves').2) := by
  induction moves generalizing s with
  | nil => rfl
  | cons m rest ih => simp only [List.cons_append, play, ih, List.append_assoc]

theorem heard_perform (s : Session) (i : Nat) (o : Operation) :
    Observers.heard i (s.perform o).2.2 =
      if i < s.observers.count then (o.apply s.card).events else [] :=
  s.observers.heard_deliverAll i _

/-- Whoever is not yet an observer hears nothing until it joins. -/
theorem heard_play_of_le (s : Session) (moves : List Move)
    (h : (s.play moves).1.observers.count ≤ i) :
    s.observers.count ≤ i ∧ Observers.heard i (s.play moves).2 = [] := by
  induction moves generalizing s with
  | nil => exact ⟨h, rfl⟩
  | cons m rest ih =>
      obtain ⟨hcount, hheard⟩ := ih (s.move m).1 h
      rw [play, Observers.heard_append, hheard, List.append_nil]
      cases m with
      | perform o => exact ⟨hcount, (s.heard_perform i o).trans (if_neg (Nat.not_lt.2 hcount))⟩
      | subscribe => exact ⟨Nat.le_of_succ_le hcount, rfl⟩

/-- What an observer hears leads from the length of the list when it joined to that of now. -/
theorem replay?_heard_play (s : Session) (moves : List Move) (h : i < s.observers.count) :
    i < (s.play moves).1.observers.count ∧
      Event.replay? s.card.files.length (Observers.heard i (s.play moves).2) =
        some (s.play moves).1.card.files.length := by
  induction moves generalizing s with
  | nil => exact ⟨h, rfl⟩
  | cons m rest ih =>
      rw [play, Observers.heard_append]
      cases m with
      | perform o =>
          obtain ⟨hcount, hreplay⟩ := ih (s.perform o).1 h
          refine ⟨hcount, ?_⟩
          have hstep := Operation.replay?_events s.card o
          rw [move, heard_perform, if_pos h, Event.replay?_append hstep]
          exact hreplay
      | subscribe => exact ih s.subscribe (Nat.lt_succ_of_lt h)

/-- An observer that joins at any time, on any card, hears a complete account of all that follows:
the ranges lead from the length that the list has on joining to the length that it has later, and
each single operation is told as it should be. -/
theorem heard_account (start : Session) (before after : List Move) :
    let joined := (start.play before).1
    let i := joined.observers.count
    let later := start.play (before ++ .subscribe :: after)
    Event.replay? joined.card.files.length (Observers.heard i later.2) =
        some later.1.card.files.length ∧
      ∀ o, Operation.IsAccount later.1.card o (Observers.heard i (later.1.perform o).2.2) := by
  intro joined i later
  have hlater : later = ((joined.subscribe.play after).1,
      (start.play before).2 ++ (joined.subscribe.play after).2) := play_append start before _
  obtain ⟨hcount, hreplay⟩ := replay?_heard_play joined.subscribe after (Nat.lt_succ_self i)
  obtain ⟨-, hsilent⟩ := heard_play_of_le start before (Nat.le_refl i)
  rw [hlater]
  refine ⟨?_, fun o ↦ ?_⟩
  · rw [Observers.heard_append, hsilent, List.nil_append]
    exact hreplay
  · rw [heard_perform, if_pos hcount]
    exact Operation.isAccount_events _ o

end Session
end MemoryCard
