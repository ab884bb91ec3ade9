import MemoryCard.Proofs.Bytes
import MemoryCard.Proofs.Result

/-! # Asking carefully

A program asks for bytes of a buffer, for elements of a list, and for differences of numbers. Not every
such request has an answer: a buffer has an end, a list has a length, and no difference is below zero.
The functions that read a card are total and give some answer nevertheless, zeros behind the end of a
buffer and zero for a difference. Here they are followed with care: a request without an answer leaves
the whole computation without one. That this never happens is proved function by function, by showing
that the careful function gives what the function itself gives.
-/

namespace MemoryCard

variable {α β : Type}

/-- A computation that can fail, and that has no outcome at all if some request had no answer. -/
abbrev Careful := ExceptT Failure Option

namespace Careful

/-- A computation in which every request had an answer. -/
def of (x : Except Failure α) : Careful α := ExceptT.mk (some x)

/-- Go on with the answer to a request. -/
def ask (answer? : Option α) : Careful α := ExceptT.lift answer?

@[simp] theorem ask_some (a : α) : ask (some a) = of (.ok a) := rfl

@[simp] theorem of_ok_bind (a : α) (f : α → Careful β) : (of (.ok a) >>= f) = f a := rfl

/-- If what follows has answers to all of its requests, so have both together. -/
theorem of_bind {x : Except Failure α} {f : α → Careful β} {g : α → Except Failure β}
    (h : ∀ a, x = .ok a → f a = of (g a)) : (of x >>= f) = of (x >>= g) := by
  cases x with
  | error failure => rfl
  | ok a => exact h a rfl

theorem mapM_of {f : α → Careful β} {g : α → Except Failure β} {l : List α}
    (h : ∀ a ∈ l, f a = of (g a)) : l.mapM f = of (l.mapM g) := by
  induction l with
  | nil => rfl
  | cons a rest ih =>
      rw [List.mapM_cons, List.mapM_cons, h a List.mem_cons_self,
        ih fun b hb ↦ h b (List.mem_cons_of_mem _ hb)]
      refine of_bind fun b _ ↦ of_bind fun bs _ ↦ rfl

end Careful

/-- If every request of a row has an answer, so has the row. -/
theorem mapM_eq_some {f : α → Option β} {g : α → β} {l : List α}
    (h : ∀ a ∈ l, f a = some (g a)) : l.mapM f = some (l.map g) :=
  (mapM_congr h).trans List.mapM_pure

/-! ## Requests -/

/-- `a - b`, unless that is below zero. -/
def difference? (a b : Nat) : Option Nat := if b ≤ a then some (a - b) else none

theorem difference?_eq {a b : Nat} (h : b ≤ a) : difference? a b = some (a - b) := if_pos h

/-- The elements of a list from the index `n` on, unless that is behind its end. -/
def dropped? (l : List α) (n : Nat) : Option (List α) :=
  if n ≤ l.length then some (l.drop n) else none

theorem dropped?_eq {l : List α} {n : Nat} (h : n ≤ l.length) : dropped? l n = some (l.drop n) :=
  if_pos h

namespace Bytes

variable {b : Bytes} {pos n : Nat}

/-- An answer that is read from the `n` bytes from `pos` on, if these are there. -/
def within? (b : Bytes) (pos n : Nat) (answer : α) : Option α :=
  if pos + n ≤ b.size then some answer else none

theorem within?_eq (h : pos + n ≤ b.size) (answer : α) : b.within? pos n answer = some answer :=
  if_pos h

def byte? (b : Bytes) (pos : Nat) : Option UInt8 := b.within? pos 1 (b.byte pos)

def u16? (b : Bytes) (pos : Nat) : Option UInt16 := b.within? pos 2 (b.u16 pos)

def u32? (b : Bytes) (pos : Nat) : Option UInt32 := b.within? pos 4 (b.u32 pos)

def u64? (b : Bytes) (pos : Nat) : Option UInt64 := b.within? pos 8 (b.u64 pos)

def field? (b : Bytes) (pos n : Nat) : Option (Vector UInt8 n) := b.within? pos n (b.field pos n)

/-- The bytes from `start` to the one before `stop`. -/
def range? (b : Bytes) (start stop : Nat) : Option Bytes :=
  if start ≤ stop ∧ stop ≤ b.size then some (b.extract start stop) else none

theorem range?_eq {start stop : Nat} (h : start ≤ stop) (hstop : stop ≤ b.size) :
    b.range? start stop = some (b.extract start stop) := if_pos ⟨h, hstop⟩

/-- The buffer with `patch` copied over the `n` bytes from `pos` on, if `patch` is that long. -/
def copied? (b : Bytes) (pos n : Nat) (patch : Bytes) : Option Bytes :=
  if patch.size = n then b.within? pos n (b.overwrite pos patch) else none

theorem copied?_eq {patch : Bytes} (hpatch : patch.size = n) (h : pos + n ≤ b.size) :
    b.copied? pos n patch = some (b.overwrite pos patch) :=
  (if_pos hpatch).trans (within?_eq h _)

end Bytes
end MemoryCard
