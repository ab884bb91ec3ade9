import MemoryCard.Seal

/-! # Tables kept twice

A card keeps each of its tables twice and writes them in turn. Each copy is checked on its own. The copy
with the newer counter is in force if it is valid, otherwise the other one if that is valid; with no
valid copy the newer one is used so that the card stays readable.
-/

namespace MemoryCard

/-- One of the two copies of a table. -/
abbrev Copy := Fin 2

namespace Copy

def other (c : Copy) : Copy := 1 - c

@[simp] theorem other_other (c : Copy) : c.other.other = c := by
  match c with
  | 0 => rfl
  | 1 => rfl

/-- A copy named by a byte. -/
def ofByte? (n : UInt8) : Except Failure Copy :=
  if h : n.toNat < 2 then .ok ⟨n.toNat, h⟩ else .error (.noSuchCopy n)

/-- The copy that the lowest bit of `n` names. -/
def ofLowestBit (n : UInt8) : Copy := Fin.ofNat 2 n.toNat

/-- The copy whose counter is newer. Counters wrap around, and a tie goes to the first copy. -/
def newer (counter₀ counter₁ : UInt16) : Copy :=
  let ahead := counter₁ - counter₀
  if 0 < ahead ∧ ahead < 0x8000 then 1 else 0

end Copy

/-- The outcome of choosing between two copies. -/
inductive Selection where
  | active (copy : Copy)
  /-- Neither copy is valid, and `copy` stands in. -/
  | standIn (copy : Copy)
deriving DecidableEq, Repr

namespace Selection

def copy : Selection → Copy
  | .active c | .standIn c => c

def isUsable : Selection → Bool
  | .active _ => true
  | .standIn _ => false

/-- Choose the preferred copy if it is valid, else the other one if that is. -/
def choose (preferred : Copy) (valid : Copy → Bool) : Selection :=
  if valid preferred then .active preferred
  else if valid preferred.other then .active preferred.other
  else .standIn preferred

end Selection

/-- A copy of a table and what checking it has shown. -/
structure Checked (α : Type) where
  table : α
  sum : SumCheck
  valid : Bool
  /-- Why the copy could not be read at all. -/
  failure? : Option Failure
deriving DecidableEq

namespace Checked

variable {α : Type}

/-- Stands in for a copy that could not be read. -/
def unreadable (table : α) (failure : Failure) : Checked α := ⟨table, {}, false, some failure⟩

/-- A copy, or its stand-in. -/
def ofResult (standIn : α) : Except Failure (Checked α) → Checked α
  | .ok c => c
  | .error failure => unreadable standIn failure

end Checked

/-- Both copies of a table, the choice between them, and the copy that is in use. -/
structure Copies (α : Type) where
  first : Checked α
  second : Checked α
  preferred : Copy
  selection : Selection
  inUse : Copy
deriving DecidableEq

namespace Copies

variable {α : Type}

/-- The copies with the choice that the card makes. -/
def ofPair (counter : α → UInt16) (first second : Checked α) : Copies α :=
  let preferred := Copy.newer (counter first.table) (counter second.table)
  let selection := Selection.choose preferred fun c ↦ if c = 0 then first.valid else second.valid
  ⟨first, second, preferred, selection, selection.copy⟩

def copy (t : Copies α) (c : Copy) : Checked α := if c = 0 then t.first else t.second

/-- The table in use. -/
def current (t : Copies α) : α := (t.copy t.inUse).table

/-- The table that is not in use. -/
def idle (t : Copies α) : α := (t.copy t.inUse.other).table

/-- The copy that the card itself would use, unless neither is valid. -/
def cardChoice? (t : Copies α) : Option Copy :=
  match t.selection with
  | .active c => some c
  | .standIn _ => none

def bothInvalid (t : Copies α) : Bool := !t.selection.isUsable

/-- The copy that a byte names exists and is valid. -/
def isValid (t : Copies α) (n : UInt8) : Bool :=
  match Copy.ofByte? n with
  | .ok c => (t.copy c).valid
  | .error _ => false

/-- Use the copy that a byte names; the answer says whether that changes anything. -/
def select (t : Copies α) (n : UInt8) : Except Failure (Copies α × Bool) := do
  let c ← Copy.ofByte? n
  return if t.inUse = c then (t, false) else ({ t with inUse := c }, true)

end Copies
end MemoryCard
