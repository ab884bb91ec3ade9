import MemoryCard.Proofs.Careful.Tables

/-! # Checking a seal carefully

Before a seal is read or renewed it is checked against the length of the buffer. The check counts up
to the end of the stored sum in 64-bit words, and so do the reading and the writing behind it. As long
as that end has a number the check lets through exactly the seals that lie in the buffer, and all
others are told to be too long. For the last four places of the address space the end has no number:
the check may let the seal through, and then the program panics where it asks for the sum.
-/

namespace MemoryCard

open Bytes Careful

/-- A computation that changes a buffer in place. A failure does not undo the changes before it. -/
abbrev InPlace := ExceptT Failure (StateT Bytes Option)

namespace InPlace

variable {α β : Type}

instance : MonadLift Careful InPlace := ⟨fun x ↦ ExceptT.mk (StateT.lift x.run)⟩

/-- What a computation gives on a buffer, and the buffer after it. -/
def on (x : InPlace α) (b : Bytes) : Option (Except Failure α × Bytes) := x.run.run b

theorem on_get_bind (f : Bytes → InPlace α) (b : Bytes) : on (get >>= f) b = (f b).on b := rfl

theorem on_ok_bind (a : α) (f : α → InPlace β) (b : Bytes) :
    on (liftM (of (.ok a)) >>= f) b = (f a).on b := rfl

theorem on_error_bind (failure : Failure) (f : α → InPlace β) (b : Bytes) :
    on (liftM (of (.error failure)) >>= f) b = some (.error failure, b) := rfl

end InPlace

namespace Seal

variable {s : Seal} {b : Bytes} {size : Nat}

/-- What is told of a buffer of `size` bytes that has no room for the seal. -/
def tooLong (s : Seal) (size : Nat) : Failure :=
  .tooShort "checksum region" (max s.stop.toNat (s.storedAt.toNat + 4)) size

/-- The end of the stored sum has a number. -/
def HasEnd (s : Seal) : Prop := s.storedAt.toNat + 4 < addressLimit

/-! ## The check -/

theorem HasEnd.toNat_needed (h : s.HasEnd) :
    s.needed.toNat = max s.stop.toNat (s.storedAt.toNat + 4) := by
  rw [Seal.toNat_needed, toNat_sum (b := 4) h]
  rfl

/-- The check lets through exactly the seals that lie in the buffer. -/
theorem HasEnd.check_eq_ok_iff (h : s.HasEnd) : s.check size = .ok () ↔ s.Inside size := by
  rw [inside_iff]
  refine (and_iff_left_of_imp fun hcheck ↦ ?_).symm
  have hneeded := (Seal.check_eq_ok_iff.1 hcheck).2
  rw [h.toNat_needed] at hneeded
  exact reach_eq_ok_iff.2 (Nat.le_trans (Nat.le_max_right _ _) hneeded)

theorem check_eq_ok_or (s : Seal) (size : Nat) : s.check size = .ok () ∨
    s.check size = .error (.tooShort "checksum region" s.needed.toNat size) := by
  unfold check
  split
  · exact .inr rfl
  · exact .inl rfl

theorem HasEnd.check_eq_error (h : s.HasEnd) (hout : ¬ s.Inside size) :
    s.check size = .error (s.tooLong size) := by
  rcases s.check_eq_ok_or size with hcheck | hcheck
  · exact absurd (h.check_eq_ok_iff.1 hcheck) hout
  · rw [hcheck, h.toNat_needed]
    rfl

theorem verify_eq_error {failure : Failure} (h : s.check b.size = .error failure) :
    s.verify b = .error failure := by
  rw [verify, h]
  rfl

theorem store_eq_error {failure : Failure} (h : s.check b.size = .error failure) :
    s.store b = .error failure := by
  rw [store, h]
  rfl

/-! ## What is let through by mistake -/

section LetThrough

variable (hcheck : s.check b.size = .ok ()) (hout : ¬ s.Inside b.size)
include hcheck hout

theorem reach_eq_panic_of_check : s.reach b.size = .error .panic :=
  reach_eq_panic (Nat.not_le.1 fun h ↦ hout (inside_iff.2 ⟨hcheck, reach_eq_ok_iff.2 h⟩))

theorem verify_eq_panic : s.verify b = .error .panic := by
  rw [verify, hcheck, ok_bind, reach_eq_panic_of_check hcheck hout]
  rfl

theorem store_eq_panic : s.store b = .error .panic := by
  rw [store, hcheck, ok_bind, reach_eq_panic_of_check hcheck hout]
  rfl

end LetThrough

/-- Verifying and storing have this in common: each succeeds on a seal in the buffer, fails where the
check fails, and panics on what is let through by mistake. It then panics on nothing else. -/
theorem eq_panic_iff {α : Type} {x : Except Failure α} {a : α} (hok : s.Inside b.size → x = .ok a)
    (herror : ∀ failure, s.check b.size = .error failure → x = .error failure)
    (hpanic : s.check b.size = .ok () → ¬ s.Inside b.size → x = .error .panic) :
    x = .error .panic ↔ s.check b.size = .ok () ∧ ¬ s.Inside b.size := by
  refine ⟨fun h ↦ ?_, fun ⟨hcheck, hout⟩ ↦ hpanic hcheck hout⟩
  rcases s.check_eq_ok_or b.size with hcheck | hcheck
  · refine ⟨hcheck, fun hinside ↦ ?_⟩
    rw [hok hinside] at h
    cases h
  · rw [herror _ hcheck] at h
    cases h

/-! ## Counting in words -/

/-- The check, where the end of the stored sum must have a number. -/
def checkInWords? (s : Seal) (size : Nat) : Careful Unit := do
  let behind ← ask (sum? s.storedAt 4)
  let needed := max s.stop behind
  if s.stop < s.start ∨ size < needed.toNat then
    of (.error (.tooShort "checksum region" needed.toNat size))
  else return ()

/-- The sum of the region, once the check has let it through. -/
def computeInWords? (s : Seal) (b : Bytes) : Careful UInt32 := do
  let region ← ask (b.range? s.start.toNat s.stop.toNat)
  return (DualSum.ofBytes region.all).packed

def verifyInWords? (s : Seal) (b : Bytes) : Careful SumCheck := do
  s.checkInWords? b.size
  let behind ← ask (sum? s.storedAt 4)
  let field ← ask (b.range? s.storedAt.toNat behind.toNat)
  let stored ← ask (field.u32? 0)
  return ⟨stored, ← s.computeInWords? b⟩

def storeInWords? (s : Seal) : InPlace UInt32 := do
  let b ← get
  s.checkInWords? b.size
  let sum ← s.computeInWords? b
  let behind ← ask (sum? s.storedAt 4)
  let width ← ask (difference? behind.toNat s.storedAt.toNat)
  set (← ask (b.copied? s.storedAt.toNat width (bytes32 sum).toByteArray))
  return sum

/-- What storing the sum gives, and the buffer after that. -/
def outcome (s : Seal) (b : Bytes) : Except Failure UInt32 × Bytes :=
  match s.store b with
  | .ok (sum, sealed) => (.ok sum, sealed)
  | .error failure => (.error failure, b)

theorem HasEnd.checkInWords?_eq (h : s.HasEnd) : s.checkInWords? size = of (s.check size) := by
  have hsum : sum? s.storedAt 4 = some (s.storedAt + 4) := sum?_eq (b := 4) h
  unfold checkInWords? check
  rw [hsum, ask_some, of_ok_bind]
  show (if s.stop < s.start ∨ size < s.needed.toNat then _ else _) = _
  split <;> rfl

theorem Inside.computeInWords?_eq (h : s.Inside b.size) :
    s.computeInWords? b = of (.ok (s.compute b)) := by
  rw [computeInWords?, range?_eq h.ordered h.region, compute_eq s b h.ordered]
  rfl

theorem HasEnd.verifyInWords?_eq (h : s.HasEnd) (b : Bytes) :
    s.verifyInWords? b = of (s.verify b) := by
  have hsum : sum? s.storedAt 4 = some (s.storedAt + 4) := sum?_eq (b := 4) h
  have hend : (s.storedAt + 4).toNat = s.storedAt.toNat + 4 := toNat_sum (b := 4) h
  unfold verifyInWords? verify
  rw [h.checkInWords?_eq]
  refine of_bind fun _ hchecked ↦ ?_
  have hinside := h.check_eq_ok_iff.1 hchecked
  have hagree : Agree 4 (b.extract s.storedAt.toNat (s.storedAt.toNat + 4)) 0 b
      (s.storedAt.toNat + 0) := agree_extract b (Nat.le_refl _)
  have hwidth : 0 + 4 ≤ ByteArray.size (b.extract s.storedAt.toNat (s.storedAt.toNat + 4)) := by
    have hstored := hinside.stored
    rw [ByteArray.size_extract]
    omega
  rw [hsum, ask_some, of_ok_bind, hend, range?_eq (Nat.le_add_right _ _) hinside.stored, ask_some,
    of_ok_bind, u32?, within?_eq hwidth, hagree.u32_eq, ask_some, of_ok_bind,
    hinside.computeInWords?_eq, reach_eq_ok_iff.2 hinside.stored]
  rfl

theorem HasEnd.storeInWords?_eq (h : s.HasEnd) (b : Bytes) :
    s.storeInWords?.on b = some (s.outcome b) := by
  have hsum : sum? s.storedAt 4 = some (s.storedAt + 4) := sum?_eq (b := 4) h
  have hend : (s.storedAt + 4).toNat = s.storedAt.toNat + 4 := toNat_sum (b := 4) h
  have hwidth : difference? (s.storedAt.toNat + 4) s.storedAt.toNat = some 4 := by
    rw [difference?_eq (Nat.le_add_right _ _), Nat.add_sub_cancel_left]
  unfold storeInWords? outcome store
  rw [InPlace.on_get_bind, h.checkInWords?_eq]
  cases hchecked : s.check b.size with
  | error failure => exact InPlace.on_error_bind failure _ b
  | ok _ =>
      have hinside := h.check_eq_ok_iff.1 hchecked
      have hpatch : (bytes32 (s.compute b)).toByteArray.size = 4 := by
        rw [List.size_toByteArray, length_bytes32]
      rw [InPlace.on_ok_bind, hinside.computeInWords?_eq, InPlace.on_ok_bind, hsum, ask_some,
        InPlace.on_ok_bind, hend, hwidth, ask_some, InPlace.on_ok_bind,
        copied?_eq hpatch hinside.stored, ask_some, InPlace.on_ok_bind, ok_bind,
        reach_eq_ok_iff.2 hinside.stored]
      rfl

section NoEnd

variable (h : ¬ s.HasEnd)
include h

theorem verifyInWords?_eq_none (b : Bytes) : s.verifyInWords? b = ask none := by
  unfold verifyInWords? checkInWords?
  rw [sum?_eq_none (b := 4) (Nat.not_lt.1 h)]
  rfl

theorem storeInWords?_eq_none (b : Bytes) : s.storeInWords?.on b = none := by
  unfold storeInWords? checkInWords?
  rw [sum?_eq_none (b := 4) (Nat.not_lt.1 h)]
  rfl

end NoEnd

/-! ## Where the count can be relied on -/

/-- What follows is certain: the sum of a seal that lies in the buffer is read and stored, and of any
other seal it is told that it is too long. -/
structure Reliable (s : Seal) (b : Bytes) : Prop where
  verified : s.verifyInWords? b = of (s.verify b)
  stored : s.storeInWords?.on b = some (s.outcome b)
  inside : s.Inside b.size → s.verify b = .ok ⟨b.u32 s.storedAt.toNat, s.compute b⟩ ∧
    s.store b = .ok (s.compute b, s.put b (s.compute b))
  outside : ¬ s.Inside b.size →
    s.verify b = .error (s.tooLong b.size) ∧ s.store b = .error (s.tooLong b.size)

theorem Reliable.hasEnd (h : s.Reliable b) : s.HasEnd := by
  by_contra hend
  have hnone := h.verified.symm.trans (verifyInWords?_eq_none hend b)
  cases hnone

/-- The check can be relied on exactly where the end of the stored sum has a number. Elsewhere that sum
has no answer, and whenever the check lets through a seal that does not lie in the buffer, verifying and
storing panic. -/
theorem reliable_iff (s : Seal) (b : Bytes) :
    (s.Reliable b ↔ s.HasEnd) ∧
      (¬ s.HasEnd → s.verifyInWords? b = ask none ∧ s.storeInWords?.on b = none) ∧
      (s.verify b = .error .panic ↔ s.check b.size = .ok () ∧ ¬ s.Inside b.size) ∧
      (s.store b = .error .panic ↔ s.check b.size = .ok () ∧ ¬ s.Inside b.size) := by
  refine ⟨⟨Reliable.hasEnd, fun h ↦ ?_⟩, fun h ↦ ?_, ?_, ?_⟩
  · refine ⟨h.verifyInWords?_eq b, h.storeInWords?_eq b, fun hinside ↦ ?_, fun hout ↦ ?_⟩
    · exact ⟨hinside.verify_eq, hinside.store_eq⟩
    · have hcheck := h.check_eq_error hout
      exact ⟨verify_eq_error hcheck, store_eq_error hcheck⟩
  · exact ⟨verifyInWords?_eq_none h b, storeInWords?_eq_none h b⟩
  · exact eq_panic_iff Inside.verify_eq (fun _ ↦ verify_eq_error) verify_eq_panic
  · exact eq_panic_iff Inside.store_eq (fun _ ↦ store_eq_error) store_eq_panic

/-- The last place of all: the check takes the sum for one that lies in the buffer. -/
theorem not_reliable_last :
    let s : Seal := ⟨0, 8, 0xFFFFFFFFFFFFFFFF⟩
    let b := fill 10 0
    ¬ s.Reliable b ∧ s.check b.size = .ok () ∧ ¬ s.Inside b.size ∧
      s.verify b = .error .panic ∧ s.store b = .error .panic ∧
      s.verifyInWords? b = ask none ∧ s.storeInWords?.on b = none := by
  intro s b
  have hend : ¬ s.HasEnd := by
    unfold HasEnd
    decide
  have hcheck : s.check b.size = .ok () := by
    rw [size_fill, Seal.check_eq_ok_iff]
    decide
  have hout : ¬ s.Inside b.size := by
    rw [size_fill]
    decide
  exact ⟨fun h ↦ hend h.hasEnd, hcheck, hout, verify_eq_panic hcheck hout, store_eq_panic hcheck hout,
    verifyInWords?_eq_none hend b, storeInWords?_eq_none hend b⟩

end Seal

end MemoryCard
