import MemoryCard.Blank
import MemoryCard.CommandLine.Plan
import Std.Time.Zoned

/-! # The program

A command line is read, its command is planned, and the plan is followed on the files of the system. All
that is printed and written is decided by the plan.
-/

namespace MemoryCard.CommandLine

/-- The trouble that the system reports about a file. -/
def systemTrouble : IO.Error → FileTrouble
  | .noFileOrDirectory _ _ _ => .notFound
  | .inappropriateType _ 20 _ => .notADirectory
  | .inappropriateType _ 21 _ => .isADirectory
  | .permissionDenied _ code details | .invalidArgument _ code details
  | .resourceExhausted _ code details | .noSuchThing _ code details
  | .otherError code details => .other s!"{details} (os error {code})"
  | e => .other e.toString

/-- What an action on a file gives, or the trouble with it. -/
def attempt {α : Type} (act : IO α) : IO (Except FileTrouble α) :=
  tryCatch (Except.ok <$> act) fun e ↦ pure (.error (systemTrouble e))

/-- The clock of the system. -/
def readClock : IO Clock := do
  let now ← Std.Time.Timestamp.now
  let secs := now.toSecondsSinceUnixEpoch.val
  let nanos := now.toNanosecondsSinceUnixEpoch.val - secs * 1000000000
  let t ← Std.Time.PlainDateTime.now
  let two (n : Int) : String := Calendar.padded 2 n.toNat
  return {
    ticks := consoleTicks secs nanos.toNat
    timestamp := Calendar.padded 4 t.year.toInt.toNat ++ "-" ++ two t.month.val ++ "-" ++ two t.day.val
      ++ " " ++ two t.hour.val ++ ":" ++ two t.minute.val ++ ":" ++ two t.second.val }

/-- Run the program with the given words on its command line. -/
def run (words : List String) : IO Finish := do
  match Command.ofWords words with
  | .error finish => return finish
  | .ok command =>
    let clock ← readClock
    let contents ← match command.input? with
      | none => pure (.ok .empty)
      | some path => attempt (IO.FS.readBinFile path)
    match command.plan clock contents with
    | .error complaint => return .ofComplaint [] complaint
    | .ok plan =>
      match plan.writing? with
      | none => return plan.finish (.ok ())
      | some w => return plan.finish (← attempt (IO.FS.writeBinFile w.path w.contents))

end MemoryCard.CommandLine

def main (words : List String) : IO UInt32 := do
  let finish ← MemoryCard.CommandLine.run words
  (← IO.getStdout).putStr finish.output
  (← IO.getStderr).putStr finish.errors
  return finish.exitCode.toUInt32
