import MemoryCard.Geometry

/-! # Conditions of a card

What can be wrong with a card as a whole. The conditions are ordered by severity, and a set of them
has a mask with one bit for each.
-/

namespace MemoryCard

inductive Condition where
  | tooSmall
  | tooBig
  | notPowerOfTwo
  | badHeader
  | badDirectories
  | badAllocation
deriving DecidableEq, Repr

namespace Condition

/-- Every condition, the most severe first. -/
def all : List Condition :=
  [.tooSmall, .tooBig, .notPowerOfTwo, .badHeader, .badDirectories, .badAllocation]

def mask : Condition → Nat
  | .tooSmall => 0x01
  | .tooBig => 0x02
  | .notPowerOfTwo => 0x04
  | .badHeader => 0x10
  | .badDirectories => 0x20
  | .badAllocation => 0x40

def name : Condition → String
  | .tooSmall => "SZ_TOO_SMALL"
  | .tooBig => "SZ_TOO_BIG"
  | .notPowerOfTwo => "SZ_NON_POW2"
  | .badHeader => "INVALID_HEADER"
  | .badDirectories => "INVALID_DATS"
  | .badAllocation => "INVALID_BATS"

/-- The condition is one of the size of the image alone. -/
def isSize : Condition → Bool
  | .tooSmall | .tooBig | .notPowerOfTwo => true
  | _ => false

end Condition

/-- A set of conditions. -/
structure Conditions where
  tooSmall : Bool := false
  tooBig : Bool := false
  notPowerOfTwo : Bool := false
  badHeader : Bool := false
  badDirectories : Bool := false
  badAllocation : Bool := false
deriving DecidableEq, Repr

namespace Conditions

def has (s : Conditions) : Condition → Bool
  | .tooSmall => s.tooSmall
  | .tooBig => s.tooBig
  | .notPowerOfTwo => s.notPowerOfTwo
  | .badHeader => s.badHeader
  | .badDirectories => s.badDirectories
  | .badAllocation => s.badAllocation

def ofPred (p : Condition → Bool) : Conditions where
  tooSmall := p .tooSmall
  tooBig := p .tooBig
  notPowerOfTwo := p .notPowerOfTwo
  badHeader := p .badHeader
  badDirectories := p .badDirectories
  badAllocation := p .badAllocation

@[simp] theorem has_ofPred (p : Condition → Bool) (c : Condition) : (ofPred p).has c = p c := by
  cases c <;> rfl

theorem ext_has {s t : Conditions} (h : ∀ c, s.has c = t.has c) : s = t := by
  have h₁ := h .tooSmall
  have h₂ := h .tooBig
  have h₃ := h .notPowerOfTwo
  have h₄ := h .badHeader
  have h₅ := h .badDirectories
  have h₆ := h .badAllocation
  cases s; cases t
  simp_all [has]

def none : Conditions := {}

@[simp] theorem has_none (c : Condition) : none.has c = false := by cases c <;> rfl

def union (s t : Conditions) : Conditions := ofPred fun c => s.has c || t.has c

instance : Union Conditions := ⟨union⟩

@[simp] theorem has_union (s t : Conditions) (c : Condition) : (s ∪ t).has c = (s.has c || t.has c) :=
  has_ofPred _ c

/-- The conditions that hold, the most severe first. -/
def toList (s : Conditions) : List Condition := Condition.all.filter s.has

def isEmpty (s : Conditions) : Bool := s.toList.isEmpty

/-- The set as a word, one bit for each condition. -/
def bits (s : Conditions) : Nat := s.toList.foldr (fun c n ↦ c.mask + n) 0

/-- The conditions whose bits are set in `n`; other bits are dropped. -/
def ofBits (n : UInt32) : Conditions := ofPred fun c => n &&& c.mask.toUInt32 != 0

def mostSevere? (s : Conditions) : Option Condition := s.toList.head?

/-- The conditions of the set that concern the size of the image. -/
def ofSizeOnly (s : Conditions) : Conditions := ofPred fun c => c.isSize && s.has c

def names (s : Conditions) : List String := s.toList.map Condition.name

/-- The set as it is shown in messages. -/
def text (s : Conditions) : String :=
  if s.isEmpty then "CardErrors(0x0)" else "CardErrors(" ++ " | ".intercalate s.names ++ ")"

/-- What the length of an image alone tells. -/
def ofLength (len : Nat) : Conditions where
  tooSmall := len < minCardBytes
  tooBig := maxCardBytes < len
  notPowerOfTwo := !isPowerOfTwo len

end Conditions
end MemoryCard
