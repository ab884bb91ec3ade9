import MemoryCard.Hex

/-! # JSON documents

Values of JSON and their printed form, with one member or element on a line.
-/

namespace MemoryCard

inductive Json where
  | null
  | bool (b : Bool)
  | number (n : Nat)
  | text (s : String)
  | array (elements : List Json)
  | object (members : List (String × Json))

namespace Json

def ofOption {α : Type} (f : α → Json) : Option α → Json
  | none => null
  | some a => f a

/-- A character inside a string. Quotes, backslashes and control characters are escaped. -/
def escape (c : Char) : List Char :=
  if c = '"' then ['\\', '"']
  else if c = '\\' then ['\\', '\\']
  else if c = '\n' then ['\\', 'n']
  else if c = '\r' then ['\\', 'r']
  else if c = '\t' then ['\\', 't']
  else if c.toNat = 0x08 then ['\\', 'b']
  else if c.toNat = 0x0C then ['\\', 'f']
  else if c.toNat < 0x20 then
    ['\\', 'u', '0', '0', Hex.lowerDigit (c.toNat / 16), Hex.lowerDigit (c.toNat % 16)]
  else [c]

def quoted (s : String) : String := "\"" ++ String.ofList (s.toList.flatMap escape) ++ "\""

/-- A new line with an indentation of `depth` steps of two spaces. -/
def newLine (depth : Nat) : String := String.ofList ('\n' :: List.replicate (2 * depth) ' ')

/-- Items between two brackets, each on a line of its own. -/
def bracketed (opening closing : String) (depth : Nat) (items : List String) : String :=
  match items with
  | [] => opening ++ closing
  | _ => opening ++ newLine (depth + 1) ++ ("," ++ newLine (depth + 1)).intercalate items
      ++ newLine depth ++ closing

mutual

/-- The printed form of a value that stands at the given depth. -/
def printAt (depth : Nat) : Json → String
  | null => "null"
  | bool b => if b then "true" else "false"
  | number n => toString n
  | text s => quoted s
  | array elements => bracketed "[" "]" depth (printElements (depth + 1) elements)
  | object members => bracketed "\x7b" "\x7d" depth (printMembers (depth + 1) members)

def printElements (depth : Nat) : List Json → List String
  | [] => []
  | v :: rest => printAt depth v :: printElements depth rest

def printMembers (depth : Nat) : List (String × Json) → List String
  | [] => []
  | m :: rest => printMember depth m :: printMembers depth rest

def printMember (depth : Nat) : String × Json → String
  | (key, v) => quoted key ++ ": " ++ printAt depth v

end

/-- The printed form of a document. -/
def print (v : Json) : String := printAt 0 v

end Json
end MemoryCard
