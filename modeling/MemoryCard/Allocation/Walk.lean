import MemoryCard.Allocation.Table
import MemoryCard.BlockSet

/-! # Chains of blocks

The blocks of a file are found by following links from its first block. A walk ends at the mark of the
last block or at a defect; what it has found up to there is kept. A save whose links are gone may still
lie in one piece, and then its blocks are consecutive.
-/

namespace MemoryCard

/-- The recorded and the real length of a chain, where they differ. -/
def mismatch? (recorded : UInt16) (blocks : List UInt16) : Option (UInt16 × UInt16) :=
  let found := blocks.length.toUInt16
  if found = recorded then none else some (recorded, found)

/-- What a walk has found. -/
structure Walk where
  blocks : List UInt16
  /-- Why the walk stopped early. -/
  defect? : Option ChainDefect
  mismatch? : Option (UInt16 × UInt16)
deriving DecidableEq, Repr

namespace Walk

def isSound (w : Walk) : Bool := w.defect?.isNone

def isClean (w : Walk) : Bool := w.defect?.isNone && w.mismatch?.isNone

def mismatchFailure? (w : Walk) : Option Failure :=
  w.mismatch?.map fun (recorded, found) ↦ .lengthMismatch recorded found

end Walk

/-- Where the link of a block leads. -/
inductive Link where
  | last
  | broken (defect : ChainDefect)
  | next (block : UInt16)
deriving DecidableEq, Repr

namespace Allocation

/-- Where the link of `block` leads on a card of `size` blocks. -/
def follow (a : Allocation) (size block : UInt16) : Link :=
  match a.link? block with
  | none => .broken (.unlisted block)
  | some n =>
    if n = lastLink then .last
    else if n = freeLink then .broken (.linkToFree block)
    else if n < systemBlocks then .broken (.linkToSystem block n)
    else if size ≤ n then .broken (.linkPastEnd block n)
    else .next n

/-- Follow the links from `block` for at most `limit` blocks, none of which is among those seen. -/
def trace (a : Allocation) (size : UInt16) :
    Nat → BlockSet → UInt16 → List UInt16 × Option ChainDefect
  | 0, _, _ => ([], some (.longerThan (dataBlocks size).toNat))
  | limit + 1, seen, block =>
    if seen.contains block then ([], some (.revisited block))
    else match a.follow size block with
      | .last => ([block], none)
      | .broken defect => ([block], some defect)
      | .next n =>
        let rest := trace a size limit (seen.insert block) n
        (block :: rest.1, rest.2)

/-- The chain that begins at `first`, of a file with the given recorded length. -/
def walk (a : Allocation) (first recorded size : UInt16) : Except Failure Walk :=
  if !isDataBlock size first then .error (.corruptChain first (.firstOutside size))
  else if a.link? first = some freeLink then .error (.corruptChain first .firstFree)
  else
    let found := a.trace size (dataBlocks size).toNat .empty first
    .ok ⟨found.1, found.2, mismatch? recorded found.1⟩

end Allocation

/-- The `len` blocks from `first` on. -/
def contiguous (first len size : UInt16) : Except Failure (List UInt16) :=
  let stop := first.toNat + len.toNat
  if len = 0 then .error (.corruptChain first .zeroLength)
  else if !isDataBlock size first ∨ size.toNat < stop then
    .error (.corruptChain first (.beyondCard first stop size))
  else .ok ((List.range' first.toNat len.toNat).map Nat.toUInt16)

end MemoryCard
