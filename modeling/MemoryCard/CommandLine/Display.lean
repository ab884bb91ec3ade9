import MemoryCard.Card.Basic

/-! # Cards on the screen

The text in which the command line shows a card, its files, and the bytes of a block.
-/

namespace MemoryCard.CommandLine

/-- `s` with blanks behind it, up to `width` characters. -/
def padRight (width : Nat) (s : String) : String :=
  s ++ String.ofList (List.replicate (width - s.length) ' ')

/-- `s` with blanks in front of it, up to `width` characters. -/
def padLeft (width : Nat) (s : String) : String :=
  String.ofList (List.replicate (width - s.length) ' ') ++ s

def joinLines (lines : List String) : String := String.join (lines.map (· ++ "\n"))

/-- The copy that the card chose, if it chose one. -/
def choiceText (c? : Option Copy) : String :=
  match c? with
  | some c => s!"Some({c.val})"
  | none => "None"

def copyLine {α : Type} (table : String) (counter : α → UInt16) (n : Nat) (c : Checked α) : String :=
  let count := padLeft 5 (toString (counter c.table).toNat)
  s!"{table} {n}:        counter {count}  checksum " ++ c.sum.text
    ++ (if c.valid then "  valid" else "  INVALID")

def copiesLines {α : Type} (table : String) (counter : α → UInt16) (t : Copies α) : List String :=
  [copyLine table counter 0 t.first, copyLine table counter 1 t.second]

/-- The header, the tables and the conditions of a card. -/
def cardLines (c : Card) : List String :=
  let directories := c.tables.directories
  let allocations := c.tables.allocations
  let path := c.image.path?.getD ""
  let serial := c.header.serialText
  [s!"Image:        {path}",
   s!"Size:         {c.size} blocks ({c.image.size} bytes)",
   s!"Free:         {c.free} of {c.dataSize} blocks",
   s!"Serial:       {serial}",
   "Encoding:     " ++ c.charset.name,
   "Header sum:   " ++ c.headerSum.text]
  ++ copiesLines "DAT" Directory.counter directories
  ++ copiesLines "BAT" Allocation.counter allocations
  ++ [s!"Active:       DAT {directories.inUse.val} (card: " ++ choiceText directories.cardChoice?
        ++ s!"), BAT {allocations.inUse.val} (card: " ++ choiceText allocations.cardChoice? ++ ")",
      "Errors:       " ++ (if c.conditions.isEmpty then "none" else ", ".intercalate c.conditions.names)]

/-- One row of the list of files. -/
def fileRow (index id name length kind chain : String) : String :=
  padLeft 3 index ++ "  " ++ padRight 6 id ++ "  " ++ padRight 32 name ++ "  " ++ padLeft 5 length
    ++ "  " ++ padRight 8 kind ++ "  " ++ chain

def originText : Origin → String
  | .regular _ => "regular"
  | .lost basis _ => basis.name

def fileLine (index : Nat) (f : SaveFile) : String :=
  let chain := ",".intercalate (f.chain.map fun b ↦ toString b.toNat)
  fileRow (toString index) f.entry.idText f.name (toString f.entry.length.toNat) (originText f.origin) chain
    ++ (if f.issues.isEmpty then "" else "  [damaged]")

/-- The list of files, with a blank line and a heading in front. -/
def fileLines (c : Card) : List String :=
  "" :: fileRow "#" "id" "filename" "len" "kind" "chain"
    :: c.files.zipIdx.map fun (f, i) ↦ fileLine i f

/-- Bytes in rows of sixteen, each with its offset. -/
def dumpLines (b : Bytes) : List String :=
  (List.range ((b.size + 15) / 16)).map fun row ↦
    Hex.upper (bytes16 (row * 16).toUInt16) ++ ": " ++ Hex.upper (b.slice (row * 16) 16)

end MemoryCard.CommandLine
