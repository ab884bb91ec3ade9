import MemoryCard.Failure

/-! # Computations that can fail

The first failure of a sequence of steps is its outcome; without one the steps hand their results
on.
-/

namespace MemoryCard

variable {α β : Type}

@[simp] theorem ok_bind (x : α) (f : α → Except Failure β) : (Except.ok x >>= f) = f x := rfl

@[simp] theorem error_bind (failure : Failure) (f : α → Except Failure β) :
    (Except.error failure >>= f) = .error failure := rfl

@[simp] theorem pure_eq_ok (x : α) : (pure x : Except Failure α) = .ok x := rfl

theorem bind_eq_ok {x : Except Failure α} {f : α → Except Failure β} {y : β} :
    (x >>= f) = .ok y ↔ ∃ a, x = .ok a ∧ f a = .ok y := by
  cases x with
  | error failure => simp
  | ok a => simp

theorem need_eq_ok {what : String} {n got : Nat} (h : n ≤ got) : need what n got = .ok () :=
  if_neg (by omega)

theorem le_of_need {what : String} {n got : Nat} {u : Unit} (h : need what n got = .ok u) :
    n ≤ got := by
  unfold need at h
  split at h
  · cases h
  · rename_i hfits
    exact Nat.not_lt.1 hfits

/-- What is done for each element of a row depends on the elements of the row only. -/
theorem mapM_congr {m : Type → Type} [Monad m] [LawfulMonad m] {f g : α → m β} {l : List α}
    (h : ∀ x ∈ l, f x = g x) : l.mapM f = l.mapM g := by
  induction l with
  | nil => rw [List.mapM_nil, List.mapM_nil]
  | cons x rest ih =>
      rw [List.mapM_cons, List.mapM_cons, h x List.mem_cons_self,
        ih fun y hy ↦ h y (List.mem_cons_of_mem _ hy)]

/-- If every step succeeds, so do all of them one after the other. -/
theorem mapM_eq_ok {f : α → Except Failure β} {g : α → β} {l : List α}
    (h : ∀ x ∈ l, f x = .ok (g x)) : l.mapM f = .ok (l.map g) :=
  (mapM_congr h).trans List.mapM_pure

theorem mapM_cons_eq_ok {f : α → Except Failure β} {x : α} {rest : List α} {r : List β} :
    (x :: rest).mapM f = .ok r ↔ ∃ y ys, f x = .ok y ∧ rest.mapM f = .ok ys ∧ r = y :: ys := by
  rw [List.mapM_cons]
  constructor
  · intro h
    obtain ⟨y, hy, h⟩ := bind_eq_ok.1 h
    obtain ⟨ys, hys, h⟩ := bind_eq_ok.1 h
    cases h
    exact ⟨y, ys, hy, hys, rfl⟩
  · rintro ⟨y, ys, hy, hys, rfl⟩
    rw [hy, ok_bind, hys, ok_bind, pure_eq_ok]

/-- If the steps succeed one after the other, their results are what each of them can only give. -/
theorem eq_map_of_mapM_eq_ok {f : α → Except Failure β} {g : α → β} {l : List α} {r : List β}
    (h : ∀ x y, f x = .ok y → y = g x) (hr : l.mapM f = .ok r) : r = l.map g := by
  induction l generalizing r with
  | nil =>
      cases hr
      rfl
  | cons x rest ih =>
      obtain ⟨y, ys, hy, hys, rfl⟩ := mapM_cons_eq_ok.1 hr
      rw [List.map_cons, h x y hy, ih hys]

end MemoryCard
