import MemoryCard.Card.Operation
import MemoryCard.Card.Search
import MemoryCard.CommandLine.Command
import MemoryCard.CommandLine.Display
import MemoryCard.Report.Basic

/-! # Carrying out commands

A command reads at most one image and writes at most one file. What it prints and writes is a plan, which
depends on nothing but the command, the image and the clock; whoever follows the plan decides nothing.
-/

namespace MemoryCard.CommandLine

/-- The version of the program. -/
def version : String := "0.1.0"

structure Clock where
  /-- Ticks since the year 2000. -/
  ticks : UInt64
  /-- The local time as reports show it. -/
  timestamp : String

/-- What went wrong, the outermost circumstance first. -/
abbrev Complaint := List String

def Complaint.text (c : Complaint) : String := ": ".intercalate c

def complain (f : Failure) : Complaint := f.message :: f.causes

def complainIn (circumstance : String) (f : Failure) : Complaint := circumstance :: complain f

/-- A file that is to be written. -/
structure Writing where
  path : String
  contents : Bytes
  /-- The contents must have reached the medium before the program goes on. -/
  synced : Bool := false
  /-- What is said if the file cannot be written. -/
  complaint : FileTrouble → Complaint

/-- What a command does: text to print, a file to write, and more text to print. -/
structure Plan where
  before : List String := []
  writing? : Option Writing := none
  after : List String := []

/-- The card in the image at `path`, where reading the file gave `contents`. A directory can be opened,
but not be mapped into memory. -/
def openCard (path : String) (contents : Except FileTrouble Bytes) : Except Complaint Card :=
  match contents with
  | .error .isADirectory => .error (complainIn s!"opening {path}" (.notMappable path))
  | .error trouble => .error (complainIn s!"opening {path}" (.file trouble))
  | .ok bytes =>
    match Card.ofImage ⟨bytes, some path⟩ with
    | .error failure => .error (complainIn s!"opening {path}" failure)
    | .ok card => .ok card

/-- A table that is named on the command line is used. -/
def useTable (select : Card → UInt8 → Outcome Unit) (card : Card) (n? : Option UInt8) :
    Except Complaint Card :=
  match n? with
  | none => .ok card
  | some n =>
    let outcome := select card n
    match outcome.result with
    | .ok _ => .ok outcome.card
    | .error failure => .error (complain failure)

namespace Command

/-- What a command does, where reading its image gave `contents`. -/
def plan (clock : Clock) (contents : Except FileTrouble Bytes) : Command → Except Complaint Plan
  | info image directory? allocation? => do
    let card ← openCard image contents
    let card ← useTable Card.selectDirectory card directory?
    let card ← useTable Card.selectAllocation card allocation?
    return { before := cardLines card ++ fileLines card }
  | scan image noIdleDirectory noBlockPool threads report? => do
    let card ← openCard image contents
    let options : ScanOptions :=
      { threads, idleDirectory := !noIdleDirectory, blockPool := !noBlockPool }
    let sightings ← (card.scan options).mapError complain
    let outcome := card.addSightings sightings
    let added ← outcome.result.mapError complain
    let summary := s!"Candidates: {sightings.length}  Recovered: {added.length}"
    let render (path : String) : Writing := {
      path
      contents := (Report.render outcome.card ⟨clock.timestamp, version, sightings.length⟩).toUTF8
      complaint := fun trouble ↦ complainIn s!"writing report to {path}" (.file trouble) }
    return {
      before := cardLines outcome.card ++ ["", summary] ++ fileLines outcome.card
      writing? := report?.map render }
  | format image blocks charset => do
    let options : BlankOptions := { blocks, charset }
    let circumstance := s!"formatting {image}"
    let bytes ← (options.image clock.ticks).mapError (complainIn circumstance)
    let card ← (Card.ofImage ⟨bytes, some image⟩).mapError (complainIn circumstance)
    return {
      writing? := some {
        path := image
        contents := bytes
        synced := true
        complaint := fun trouble ↦ complainIn circumstance (.file trouble) }
      after := [s!"Formatted {image}: {card.size} blocks ({card.free} free), " ++ card.charset.name] }
  | dumpBlock image index output? => do
    let card ← openCard image contents
    let block ← (card.readBlock index (Bytes.fill blockSize 0)).mapError complain
    return match output? with
      | some path => { writing? := some {
          path
          contents := block
          complaint := fun trouble ↦ [s!"writing {path}", trouble.message] } }
      | none => { before := dumpLines block }

/-- The image that a command reads. -/
def input? : Command → Option String
  | .info image _ _ | .scan image _ _ _ _ | .dumpBlock image _ _ => some image
  | .format _ _ _ => none

end Command

/-! ## Usage -/

namespace UsageError

def message : UsageError → String
  | help | version => ""
  | noArguments => "a subcommand is needed"
  | missingSubcommand => "a subcommand is needed"
  | unknownSubcommand => "there is no such subcommand"
  | missingArgument => "an argument is missing"
  | unknownArgument => "there is no such argument"
  | invalidValue => "a value is missing or not allowed"
  | outOfRange => "a value is not a number in its range"
  | unwantedValue => "a switch takes no value"
  | repeatedOption => "an option is given twice"

end UsageError

/-- A short description of the command line. -/
def usageLines : List String :=
  ["GameCube memory card inspection and lost-file recovery",
   "",
   "Usage: gcn-recover [-v]... <COMMAND>",
   "",
   "Commands:",
   "  info <IMAGE> [--dat <0|1>] [--bat <0|1>]",
   "  scan <IMAGE> [--no-inactive-dat] [--no-block-pool] [--threads <N>] [--json <OUT>]",
   "  format <IMAGE> [--blocks <N>] [--encoding <ansi|sjis>]",
   "  dump-block <IMAGE> <INDEX> [--out <OUT>]",
   "  help [COMMAND]"]

def versionLine : String := "gcn-recover " ++ version

/-! ## Outputs -/

/-- What a run of the program leaves behind on its outputs. -/
structure Finish where
  exitCode : Nat
  output : String := ""
  errors : String := ""
deriving DecidableEq, Repr

namespace Finish

def ofUsageError : UsageError → Finish
  | .help => ⟨0, joinLines usageLines, ""⟩
  | .version => ⟨0, joinLines [versionLine], ""⟩
  | .noArguments => ⟨2, "", joinLines usageLines⟩
  | e => ⟨2, "", joinLines ["error: " ++ e.message]⟩

def ofInvalid (reason : String) : Finish := ⟨2, "", joinLines ["Invalid arguments: " ++ reason]⟩

def ofComplaint (output : List String) (c : Complaint) : Finish :=
  ⟨1, joinLines output, joinLines ["Error: " ++ c.text]⟩

def success (output : List String) : Finish := ⟨0, joinLines output, ""⟩

end Finish

/-- The outputs of a plan, where the result is that of writing its file. -/
def Plan.finish (p : Plan) (written : Except FileTrouble Unit) : Finish :=
  match p.writing?, written with
  | some w, .error trouble => .ofComplaint p.before (w.complaint trouble)
  | _, _ => .success (p.before ++ p.after)

/-- The command that words name, if they name one and it can be carried out. -/
def Command.ofWords (words : List String) : Except Finish Command :=
  match Arguments.ofWords words with
  | .error e => .error (.ofUsageError e)
  | .ok arguments =>
    match arguments.command.check with
    | .error reason => .error (.ofInvalid reason)
    | .ok _ => .ok arguments.command

end MemoryCard.CommandLine
