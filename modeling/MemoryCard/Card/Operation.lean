import MemoryCard.Card.Event
import MemoryCard.Card.Salvage

/-! # Operations on a card

An operation gives a result, the card as it is afterwards, and the events in the order in which observers
are told of them.
-/

namespace MemoryCard

/-- What an operation leaves behind. -/
structure Outcome (α : Type) where
  result : Except Failure α
  card : Card
  events : List Event

namespace Card

/-! ## The file list -/

/-- Put files at the end of the list. -/
def append (c : Card) (files : List SaveFile) : Card × List Event :=
  if files.isEmpty then (c, [])
  else
    let first := c.files.length
    ({ c with files := c.files ++ files },
      [.aboutToInsert first (first + files.length - 1), .inserted])

/-- Remove the files from the index `first` on. -/
def dropFrom (c : Card) (first : Nat) : Card × List Event :=
  if c.files.length ≤ first then (c, [])
  else
    ({ c with files := c.files.take first },
      [.aboutToRemove first (c.files.length - 1), .removed])

/-! ## The tables in use -/

/-- Change the tables in use and list the regular files again; lost files are dropped. -/
def switch (c : Card) (select : Tables → Except Failure (Tables × Bool)) : Outcome Unit :=
  let (emptied, removal) := c.dropFrom 0
  match select emptied.tables with
  | .error failure => ⟨.error failure, emptied, removal⟩
  | .ok (tables, _) =>
    let listing := Listing.ofTables tables emptied.size emptied.charset
    let relisted := { emptied with
      tables, usage := listing.usage, regularCount := listing.files.length }
    let (card, insertion) := relisted.append listing.files
    ⟨.ok (), card, removal ++ insertion ++ [.blockCount card.dataSize card.free]⟩

/-- Use the copy of the directory that a byte names. -/
def selectDirectory (c : Card) (n : UInt8) : Outcome Unit :=
  if 1 < n then ⟨.error (.noSuchCopy n), c, []⟩
  else if n.toNat = c.tables.directories.inUse.val then ⟨.ok (), c, []⟩
  else c.switch (·.selectDirectory n)

/-- Use the copy of the allocation table that a byte names. -/
def selectAllocation (c : Card) (n : UInt8) : Outcome Unit :=
  if 1 < n then ⟨.error (.noSuchCopy n), c, []⟩
  else if n.toNat = c.tables.allocations.inUse.val then ⟨.ok (), c, []⟩
  else c.switch (·.selectAllocation n)

/-! ## Lost files -/

/-- Put a lost file at the end of the list, unless it was refused; the result is its index. -/
def addSalvaged (c : Card) : Except Failure SaveFile → Outcome Nat
  | .error failure => ⟨.error failure, c, []⟩
  | .ok file =>
    let (card, events) := c.append [file]
    ⟨.ok c.files.length, card, events⟩

/-- Take up the lost file of an entry. -/
def addLost (c : Card) (e : Entry) : Outcome Nat :=
  c.addSalvaged (c.salvage (.ofList c.lostBlocks) e e.firstBlock e.stopBlock)

/-- Take up a lost file with a chain that the caller has chosen. -/
def addLostChain (c : Card) (e : Entry) (chain : List UInt16) : Outcome Nat :=
  c.addSalvaged (Proposal.ofChain c.size e chain >>= c.accept (.ofList c.lostBlocks) e)

/-- Take up what can be taken up of the sightings; the result has the indices of the new files. -/
def addSightings (c : Card) (sightings : List Sighting) : Outcome (List Nat) :=
  let files := c.salvageAll (.ofList c.lostBlocks) sightings
  let (card, events) := c.append files
  ⟨.ok (List.range' c.files.length files.length), card, events⟩

/-- Remove all lost files. -/
def removeLost (c : Card) : Outcome Unit :=
  let (card, events) := c.dropFrom c.regularCount
  ⟨.ok (), card, events⟩

end Card

/-! ## Operations as data -/

inductive Operation where
  | selectDirectory (n : UInt8)
  | selectAllocation (n : UInt8)
  | addLost (e : Entry)
  | addLostChain (e : Entry) (chain : List UInt16)
  | addSightings (sightings : List Sighting)
  | removeLost
deriving DecidableEq

namespace Outcome

/-- The outcome with the indices of the files that were added in place of its result. -/
def indices {α : Type} (f : α → List Nat) (o : Outcome α) : Outcome (List Nat) :=
  ⟨o.result.map f, o.card, o.events⟩

end Outcome

namespace Operation

/-- Carry out an operation. The result has the indices of the files that were added. -/
def apply (c : Card) : Operation → Outcome (List Nat)
  | .selectDirectory n => (c.selectDirectory n).indices fun _ ↦ []
  | .selectAllocation n => (c.selectAllocation n).indices fun _ ↦ []
  | .addLost e => (c.addLost e).indices fun i ↦ [i]
  | .addLostChain e chain => (c.addLostChain e chain).indices fun i ↦ [i]
  | .addSightings sightings => c.addSightings sightings
  | .removeLost => c.removeLost.indices fun _ ↦ []

/-- Carry out operations one after the other, whether they succeed or not. -/
def run (c : Card) : List Operation → Card
  | [] => c
  | o :: rest => run (o.apply c).card rest

end Operation

/-- A card together with those who observe it. -/
structure Session where
  card : Card
  observers : Observers := {}

namespace Session

/-- Carry out an operation and tell the observers of its events. -/
def perform (s : Session) (o : Operation) :
    Session × Except Failure (List Nat) × List (Nat × Event) :=
  let outcome := o.apply s.card
  ({ s with card := outcome.card }, outcome.result, s.observers.deliverAll outcome.events)

def subscribe (s : Session) : Session := { s with observers := s.observers.subscribe }

end Session
end MemoryCard
