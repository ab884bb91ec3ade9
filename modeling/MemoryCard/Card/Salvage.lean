import MemoryCard.BlockSet
import MemoryCard.Card.Basic
import MemoryCard.Save.Sighting

/-! # Taking up lost files

A lost file gets the chain that the allocation table in use gives it. If that chain is damaged or gone,
the file may lie in one piece; if it cannot, the part of a damaged chain that is there is better than
nothing. Whatever the chain, it must not touch a block that a regular or another lost file has.
-/

namespace MemoryCard

/-- A chain for a lost file, not yet checked against the blocks of other files. -/
structure Proposal where
  chain : List UInt16
  basis : Basis
  issues : Issues
deriving DecidableEq, Repr

namespace Proposal

/-- The chain of an entry by the links of the table. -/
def ofWalk (w : Walk) : Proposal := ⟨w.blocks, .allocation, .ofWalk w⟩

/-- A used entry is needed. -/
def checkEntry (e : Entry) : Except Failure Unit :=
  if e.isUnused then .error (.invalidArgument "directory entry is unused") else .ok ()

/-- The chain for an entry, where the file takes up the blocks from `start` to the one before `stop` if
it lies in one piece. -/
def ofEntry (allocation : Allocation) (size : UInt16) (e : Entry) (start stop : UInt16) :
    Except Failure Proposal := do
  checkEntry e
  let walk? := allocation.walk e.firstBlock e.length size
  let piece := contiguous start (if start ≤ stop then stop - start else 0) size
  match walk?, piece with
  | .ok walk, .ok chain => return if walk.isSound then ofWalk walk else ⟨chain, .contiguous, {}⟩
  | .ok walk, .error failure =>
    if walk.isSound ∨ walk.blocks ≠ [] then return ofWalk walk else throw failure
  | .error _, .ok chain => return ⟨chain, .contiguous, {}⟩
  | .error _, .error failure => throw failure

/-- The first thing wrong with a chain, where the blocks in `seen` stand in front of it. -/
def flaw? (size : UInt16) : BlockSet → List UInt16 → Option ChainDefect
  | _, [] => none
  | seen, block :: rest =>
    if !isDataBlock size block then some (.notDataBlock block)
    else if seen.contains block then some (.repeated block)
    else flaw? size (seen.insert block) rest

/-- A chain that the caller has chosen. -/
def ofChain (size : UInt16) (e : Entry) (chain : List UInt16) : Except Failure Proposal := do
  checkEntry e
  match chain with
  | [] => throw (.corruptChain e.firstBlock .emptyChain)
  | first :: _ =>
    match flaw? size .empty chain with
    | some defect => throw (.corruptChain first defect)
    | none => return ⟨chain, .explicit, { mismatch? := mismatch? e.length chain }⟩

end Proposal

namespace Card

/-- The first block of a chain that a regular file claims or that is reserved. -/
def overlap? (c : Card) (reserved : BlockSet) (chain : List UInt16) : Option UInt16 :=
  chain.find? fun b ↦ 0 < c.usage.count b || reserved.contains b

/-- The lost file of an entry with the proposed chain, if the chain is free. -/
def accept (c : Card) (reserved : BlockSet) (e : Entry) (p : Proposal) :
    Except Failure SaveFile :=
  match c.overlap? reserved p.chain with
  | some b => .error (.overlap b)
  | none => .ok
    { entry := e
      chain := p.chain
      origin := .lost p.basis (e.isCredible c.size)
      issues := p.issues
      charset := c.charset.forRegion e.region }

/-- The chain that the card has for an entry, with the given blocks if the file lies in one piece. -/
def propose (c : Card) (e : Entry) (start stop : UInt16) : Except Failure Proposal :=
  Proposal.ofEntry c.tables.allocation c.size e start stop

/-- The lost file of an entry. -/
def salvage (c : Card) (reserved : BlockSet) (e : Entry) (start stop : UInt16) :
    Except Failure SaveFile := do
  c.accept reserved e (← c.propose e start stop)

/-- The lost file of a sighting, which may name blocks of its own for a file in one piece. -/
def salvageSighting (c : Card) (reserved : BlockSet) (s : Sighting) : Except Failure SaveFile :=
  if s.start < s.stop then c.salvage reserved s.entry s.start s.stop
  else c.salvage reserved s.entry s.entry.firstBlock s.entry.stopBlock

/-- The lost files of those sightings that can be taken up one after the other. -/
def salvageAll (c : Card) : BlockSet → List Sighting → List SaveFile
  | _, [] => []
  | reserved, s :: rest =>
    match c.salvageSighting reserved s with
    | .ok file => file :: salvageAll c (reserved.insertAll file.chain) rest
    | .error _ => salvageAll c reserved rest

end Card
end MemoryCard
