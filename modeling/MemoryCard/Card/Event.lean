/-! # Events

What observers of a card are told. A change of the file list is announced with the indices of the files,
the last one included, and confirmed when it has happened.
-/

namespace MemoryCard

inductive Event where
  | aboutToInsert (first last : Nat)
  | inserted
  | aboutToRemove (first last : Nat)
  | removed
  /-- The number of data blocks, and how many of them are free. -/
  | blockCount (dataBlocks free : UInt16)
deriving DecidableEq, Repr

/-- The observers of one card, numbered in the order in which they came. -/
structure Observers where
  count : Nat := 0
deriving DecidableEq, Repr

namespace Observers

def isEmpty (o : Observers) : Bool := o.count == 0

/-- One more observer. -/
def subscribe (o : Observers) : Observers := ⟨o.count + 1⟩

/-- Each observer in turn is told of the event. -/
def deliver (o : Observers) (e : Event) : List (Nat × Event) := (List.range o.count).map (·, e)

def deliverAll (o : Observers) (es : List Event) : List (Nat × Event) := es.flatMap o.deliver

/-- One line about the observers. -/
def text (o : Observers) : String := s!"EventBus \x7b observers: {o.count} \x7d"

end Observers
end MemoryCard
