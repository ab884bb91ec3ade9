/-! # Character sets

Text on a card is in the Windows code page for Western Europe or in Shift_JIS. The header of the card
says which, and the titles of Japanese games are in Shift_JIS on every card.
-/

namespace MemoryCard

inductive Charset where
  | ansi
  | shiftJis
deriving DecidableEq, Repr

namespace Charset

/-- The header's word for a character set counts by its lowest bit. -/
def ofWord (w : UInt16) : Charset := if w &&& 1 = 0 then .ansi else .shiftJis

def word : Charset → UInt16
  | .ansi => 0
  | .shiftJis => 1

@[simp] theorem ofWord_word (c : Charset) : ofWord c.word = c := by cases c <;> rfl

/-- The region code of Japan. -/
def japan : UInt8 := 0x4A

/-- The set of a file from the given region on a card with the set `c`. -/
def forRegion (c : Charset) (region : UInt8) : Charset := if region = japan then .shiftJis else c

def name : Charset → String
  | .ansi => "ANSI"
  | .shiftJis => "Shift-JIS"

end Charset
end MemoryCard
