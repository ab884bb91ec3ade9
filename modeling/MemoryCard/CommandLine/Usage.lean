import MemoryCard.Charset

/-! # Options and operands

How the words of a command line are read: long options with their values, short switches that may stand
together, operands, and `--`, behind which every word is an operand. The value of an option or an operand
is checked when the next word that begins something else is met, so of two mistakes the later one may be
reported.
-/

namespace MemoryCard.CommandLine

/-- Why a command line is not understood, or asks for help only. -/
inductive UsageError where
  | help
  | version
  | noArguments
  | missingSubcommand
  | unknownSubcommand
  | missingArgument
  | unknownArgument
  /-- A value is missing, empty or not one of those allowed. -/
  | invalidValue
  /-- A value is not a number in its range. -/
  | outOfRange
  /-- A switch is given a value. -/
  | unwantedValue
  /-- An option is given twice. -/
  | repeatedOption
deriving DecidableEq, Repr

/-! ## Values -/

inductive ValueKind where
  | path
  /-- A number up to `limit`. A sign is allowed in front of it. -/
  | number (limit : Nat)
  /-- A number up to `limit` without a minus sign. -/
  | count (limit : Nat)
  | charset
deriving DecidableEq, Repr

inductive Value where
  | path (p : String)
  | number (n : Nat)
  | charset (c : Charset)
deriving DecidableEq, Repr

/-- The number that decimal digits stand for; there must be at least one. -/
def ofDigits? (cs : List Char) : Option Nat :=
  if cs ≠ [] ∧ cs.all Char.isDigit then
    some (cs.foldl (fun n c ↦ n * 10 + (c.toNat - 0x30)) 0)
  else none

/-- The number of digits with or without a sign in front. -/
def signed? : List Char → Option Int
  | '+' :: cs => (ofDigits? cs).map Int.ofNat
  | '-' :: cs => (ofDigits? cs).map fun n ↦ -Int.ofNat n
  | cs => (ofDigits? cs).map Int.ofNat

/-- The number of digits with or without a plus sign in front. -/
def unsigned? : List Char → Option Nat
  | '+' :: cs => ofDigits? cs
  | cs => ofDigits? cs

namespace ValueKind

def read (kind : ValueKind) (s : String) : Except UsageError Value :=
  match kind with
  | path => if s = "" then .error .invalidValue else .ok (.path s)
  | number limit =>
    match signed? s.toList with
    | some n => if 0 ≤ n ∧ n ≤ limit then .ok (.number n.toNat) else .error .outOfRange
    | none => .error .outOfRange
  | count limit =>
    match unsigned? s.toList with
    | some n => if n ≤ limit then .ok (.number n) else .error .outOfRange
    | none => .error .outOfRange
  | charset =>
    if s = "ansi" then .ok (.charset .ansi)
    else if s = "sjis" then .ok (.charset .shiftJis)
    else .error .invalidValue

end ValueKind

/-! ## Words -/

/-- What a word of the command line looks like. -/
inductive Word where
  /-- The word `--`. -/
  | escape
  | long (name : String) (value? : Option String)
  | short (letters : List Char)
  | plain
deriving DecidableEq, Repr

namespace Word

/-- A long option without its dashes, cut at the first equals sign. -/
def ofLong (cs : List Char) : Word :=
  let name := String.ofList (cs.takeWhile (· != '='))
  match cs.dropWhile (· != '=') with
  | [] => .long name none
  | _ :: value => .long name (some (String.ofList value))

def ofString (s : String) : Word :=
  match s.toList with
  | ['-', '-'] => .escape
  | '-' :: '-' :: cs => ofLong cs
  | ['-'] => .plain
  | '-' :: cs => .short cs
  | _ => .plain

end Word

/-! ## Intake -/

/-- What options and operands are about. -/
inductive Key where
  | image
  | index
  | directory
  | allocation
  | noIdleDirectory
  | noBlockPool
  | threads
  | report
  | blocks
  | charset
  | output
deriving DecidableEq, Repr

/-- An option takes a value, or is a switch. -/
inductive Role where
  | value (kind : ValueKind)
  | switch
deriving DecidableEq, Repr

/-- The options and operands of a subcommand. -/
structure Grammar where
  options : List (String × Key × Role)
  operands : List (Key × ValueKind)

/-- An option or operand whose value has not been checked. -/
structure Pending where
  key : Key
  kind : ValueKind
  raw? : Option String
deriving DecidableEq, Repr

/-- What has been read so far. -/
structure Intake where
  found : List (Key × Value) := []
  switches : List Key := []
  /-- How often more output was asked for. -/
  verbosity? : Option Nat := none
  pending? : Option Pending := none
  /-- Operands that may still come. -/
  operands : List (Key × ValueKind)

namespace Intake

/-- Check the value of an option or operand. -/
def settleValue (i : Intake) (key : Key) (kind : ValueKind) (raw : String) :
    Except UsageError Intake :=
  if i.found.any (·.1 = key) then .error .repeatedOption
  else do
    let value ← kind.read raw
    return { i with found := (key, value) :: i.found }

/-- Check the value that is pending. -/
def settle (i : Intake) : Except UsageError Intake :=
  match i.pending? with
  | none => .ok i
  | some ⟨_, _, none⟩ => .error .invalidValue
  | some ⟨key, kind, some raw⟩ => settleValue { i with pending? := none } key kind raw

/-- One more request for more output; 255 of them are enough. -/
def countVerbose (i : Intake) : Intake :=
  { i with verbosity? := some (min 255 (i.verbosity?.getD 0 + 1)) }

/-- A word that stands for itself: the value that is awaited, or the next operand. -/
def operand (i : Intake) (s : String) : Except UsageError Intake :=
  match i.operands with
  | [] => .error .unknownArgument
  | (key, kind) :: rest => do
    let i ← i.settle
    return { i with pending? := some ⟨key, kind, some s⟩, operands := rest }

def plain (i : Intake) (s : String) : Except UsageError Intake :=
  match i.pending? with
  | some ⟨key, kind, none⟩ => .ok { i with pending? := some ⟨key, kind, some s⟩ }
  | _ => i.operand s

/-- An option of a subcommand. -/
def option (i : Intake) (key : Key) (role : Role) (value? : Option String) :
    Except UsageError Intake :=
  match role, value? with
  | .switch, some _ => .error .unwantedValue
  | .switch, none => do
    let i ← i.settle
    if key ∈ i.switches then throw .repeatedOption
    return { i with switches := key :: i.switches }
  | .value kind, some raw => do (← i.settle).settleValue key kind raw
  | .value kind, none => do return { ← i.settle with pending? := some ⟨key, kind, none⟩ }

/-- A switch that every command has. -/
def common (i : Intake) (act : Intake → Except UsageError Intake) (value? : Option String) :
    Except UsageError Intake :=
  match value? with
  | some _ => .error .unwantedValue
  | none => i.settle >>= act

def long (i : Intake) (g : Grammar) (name : String) (value? : Option String) :
    Except UsageError Intake :=
  if name = "verbose" then i.common (fun i ↦ .ok i.countVerbose) value?
  else if name = "help" then i.common (fun _ ↦ .error .help) value?
  else match g.options.lookup name with
    | some (key, role) => i.option key role value?
    | none => .error .unknownArgument

/-- Switches of one letter. -/
def short (i : Intake) : List Char → Except UsageError Intake
  | [] => .ok i
  | 'v' :: rest => do short (← i.settle).countVerbose rest
  | 'h' :: _ => do
    let _ ← i.settle
    throw .help
  | _ => .error .unknownArgument

/-- Read words of which all are operands. -/
def readOperands (i : Intake) : List String → Except UsageError Intake
  | [] => i.settle
  | s :: rest => do readOperands (← i.operand s) rest

/-- Read the words of a subcommand. -/
def read (g : Grammar) (i : Intake) : List String → Except UsageError Intake
  | [] => i.settle
  | s :: rest =>
    match Word.ofString s with
    | .escape => i.readOperands rest
    | .long name value? => do read g (← i.long g name value?) rest
    | .short letters => do read g (← i.short letters) rest
    | .plain => do read g (← i.plain s) rest

def path? (i : Intake) (key : Key) : Option String :=
  match i.found.lookup key with
  | some (.path p) => some p
  | _ => none

def number? (i : Intake) (key : Key) : Option Nat :=
  match i.found.lookup key with
  | some (.number n) => some n
  | _ => none

def charset? (i : Intake) (key : Key) : Option Charset :=
  match i.found.lookup key with
  | some (.charset c) => some c
  | _ => none

end Intake

end MemoryCard.CommandLine
