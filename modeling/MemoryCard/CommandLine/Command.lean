import MemoryCard.Blank
import MemoryCard.CommandLine.Usage
import MemoryCard.Save.Sighting

/-! # Commands

The command line names one of four subcommands: to show a card, to search it for lost files, to make a
blank card, and to show one block.
-/

namespace MemoryCard.CommandLine

inductive Command where
  | info (image : String) (directory? allocation? : Option UInt8)
  | scan (image : String) (noIdleDirectory noBlockPool : Bool) (threads : UInt64)
      (report? : Option String)
  | format (image : String) (blocks : UInt16) (charset : Charset)
  | dumpBlock (image : String) (index : UInt16) (output? : Option String)
deriving DecidableEq, Repr

namespace Command

/-- The path of the image. -/
def image : Command → String
  | .info image _ _ | .scan image _ _ _ _ | .format image _ _ | .dumpBlock image _ _ => image

/-- A copy of a table is number 0 or 1. -/
def checkCopy (table : String) (n? : Option UInt8) : Except String Unit :=
  match n? with
  | some n => if 1 < n then .error s!"--{table} must be 0 or 1, got {n}" else .ok ()
  | none => .ok ()

/-- What a command must satisfy before it is carried out. -/
def check (c : Command) : Except String Unit := do
  if c.image = "" then throw "Image path cannot be empty"
  match c with
  | .info _ directory? allocation? =>
    checkCopy "dat" directory?
    checkCopy "bat" allocation?
  | .format _ blocks _ =>
    if isPowerOfTwo blocks.toNat ∧ minCardBlocks ≤ blocks.toNat ∧ blocks.toNat ≤ maxCardBlocks then
      return
    throw s!"blocks must be a power of two between {minCardBlocks} and {maxCardBlocks}, got {blocks}"
  | .scan .. | .dumpBlock .. => return

/-- What a search looks at. -/
def scanOptions? : Command → Option ScanOptions
  | .scan _ noIdleDirectory noBlockPool threads _ =>
    some { threads, idleDirectory := !noIdleDirectory, blockPool := !noBlockPool }
  | _ => none

/-- What the blank card is like. -/
def blankOptions? : Command → Option BlankOptions
  | .format _ blocks charset => some { blocks, charset }
  | _ => none

/-! ## Reading commands -/

inductive Name where
  | info
  | scan
  | format
  | dumpBlock
deriving DecidableEq, Repr

def Name.ofString? (s : String) : Option Name :=
  [("info", .info), ("scan", .scan), ("format", .format), ("dump-block", .dumpBlock)].lookup s

def Name.grammar : Name → Grammar
  | .info => {
      options := [("dat", .directory, .value (.number 0xFF)), ("bat", .allocation, .value (.number 0xFF))]
      operands := [(.image, .path)] }
  | .scan => {
      options := [
        ("no-inactive-dat", .noIdleDirectory, .switch),
        ("no-block-pool", .noBlockPool, .switch),
        ("threads", .threads, .value (.count (addressLimit - 1))),
        ("json", .report, .value .path)]
      operands := [(.image, .path)] }
  | .format => {
      options := [("blocks", .blocks, .value (.number 0xFFFF)), ("encoding", .charset, .value .charset)]
      operands := [(.image, .path)] }
  | .dumpBlock => {
      options := [("out", .output, .value .path)]
      operands := [(.image, .path), (.index, .number 0xFFFF)] }

/-- The command with the given name and arguments. -/
def ofIntake (name : Name) (i : Intake) : Except UsageError Command := do
  let some image := i.path? .image | throw .missingArgument
  match name with
  | .info =>
    return .info image ((i.number? .directory).map Nat.toUInt8) ((i.number? .allocation).map Nat.toUInt8)
  | .scan =>
    return .scan image (i.switches.contains .noIdleDirectory) (i.switches.contains .noBlockPool)
      ((i.number? .threads).getD 0).toUInt64 (i.path? .report)
  | .format =>
    return .format image ((i.number? .blocks).getD maxCardBlocks).toUInt16
      ((i.charset? .charset).getD .ansi)
  | .dumpBlock =>
    let some index := i.number? .index | throw .missingArgument
    return .dumpBlock image index.toUInt16 (i.path? .output)

end Command

/-- How much is logged. -/
inductive LogLevel where
  | info
  | debug
  | trace
deriving DecidableEq, Repr

def LogLevel.name : LogLevel → String
  | .info => "INFO"
  | .debug => "DEBUG"
  | .trace => "TRACE"

structure Arguments where
  /-- How often more output was asked for. -/
  verbosity : Nat
  command : Command
deriving DecidableEq, Repr

namespace Arguments

def logLevel (a : Arguments) : LogLevel :=
  match a.verbosity with
  | 0 => .info
  | 1 => .debug
  | _ => .trace

/-- A subcommand or the request for help on one. -/
def isSubcommand (s : String) : Bool := s = "help" || (Command.Name.ofString? s).isSome

/-- The words behind `help` name at most one subcommand. -/
def helpOn : List String → UsageError
  | [] => .help
  | [s] => if isSubcommand s then .help else .unknownSubcommand
  | _ => .unknownSubcommand

/-- Switches of one letter in front of the subcommand. -/
def shortSwitches (verbosity? : Option Nat) : List Char → Except UsageError (Option Nat)
  | [] => .ok verbosity?
  | 'v' :: rest => shortSwitches (some (min 255 (verbosity?.getD 0 + 1))) rest
  | 'h' :: _ => .error .help
  | 'V' :: _ => .error .version
  | _ => .error .unknownArgument

/-- A long switch in front of the subcommand. -/
def longSwitch (verbosity? : Option Nat) (name : String) (value? : Option String) :
    Except UsageError (Option Nat) :=
  if name = "verbose" ∨ name = "help" ∨ name = "version" then
    if value?.isSome then .error .unwantedValue
    else if name = "help" then .error .help
    else if name = "version" then .error .version
    else .ok (some (min 255 (verbosity?.getD 0 + 1)))
  else .error .unknownArgument

/-- The command and its arguments. Requests for more output behind the subcommand replace those in front
of it. -/
def ofSubcommand (verbosity? : Option Nat) (name : Command.Name) (words : List String) :
    Except UsageError Arguments := do
  let g := name.grammar
  let i ← Intake.read g { operands := g.operands } words
  let command ← Command.ofIntake name i
  return ⟨(i.verbosity?.or verbosity?).getD 0, command⟩

/-- Read words, where requests for more output may stand in front of the subcommand. -/
def readFrom (verbosity? : Option Nat) : List String → Except UsageError Arguments
  | [] => .error (if verbosity?.isSome then .missingSubcommand else .noArguments)
  | s :: rest =>
    if s = "help" then .error (helpOn rest)
    else match Command.Name.ofString? s with
      | some name => ofSubcommand verbosity? name rest
      | none =>
        match Word.ofString s with
        | .escape =>
          match rest with
          | [] => .error (if verbosity?.isSome then .missingSubcommand else .noArguments)
          | t :: _ => .error (if isSubcommand t then .unknownArgument else .unknownSubcommand)
        | .long name value? => do readFrom (← longSwitch verbosity? name value?) rest
        | .short letters => do readFrom (← shortSwitches verbosity? letters) rest
        | .plain => .error .unknownSubcommand

/-- Read the words of a command line. -/
def ofWords (words : List String) : Except UsageError Arguments := readFrom none words

end Arguments
end MemoryCard.CommandLine
