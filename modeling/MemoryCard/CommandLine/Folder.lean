import MemoryCard.CommandLine.Plan
import MemoryCard.CommandLine.Surroundings

/-! # Folders

The folder in which the program runs, and how the paths of a command line lead to its files. A path is
followed step by step, and each step can fail before the next one is looked at. A file that is written
outside the folder is not seen again.
-/

namespace MemoryCard.CommandLine

/-! ## Paths -/

/-- One step of a path. -/
inductive PathStep where
  | stay
  | up
  | name (s : String)
deriving DecidableEq, Repr

def PathStep.ofString (s : String) : PathStep :=
  if s = "." then .stay else if s = ".." then .up else .name s

structure Path where
  fromRoot : Bool
  /-- The steps in front of the last one. -/
  way : List PathStep
  /-- The last step. A path of slashes only has none. -/
  last? : Option PathStep
  /-- A slash follows the last step, which so has to lead to a directory. -/
  closed : Bool
deriving DecidableEq, Repr

/-- Slashes stand between the steps, any number of them in a row. -/
def Path.ofString (s : String) : Path :=
  let steps := ((s.splitOn "/").filter (· ≠ "")).map PathStep.ofString
  { fromRoot := s.toList.head? == some '/'
    way := steps.dropLast
    last? := steps.getLast?
    closed := s.toList.getLast? == some '/' }

/-! ## Files -/

/-- The files of one folder by their names, and what is around the folder. -/
structure Folder where
  files : List (String × Bytes)
  around : Surroundings

namespace Folder

def find? (d : Folder) (name : String) : Option Bytes := d.files.lookup name

def put (d : Folder) (name : String) (contents : Bytes) : Folder :=
  if (d.find? name).isSome then
    { d with files := d.files.map fun f ↦ if f.1 = name then (name, contents) else f }
  else { d with files := d.files ++ [(name, contents)] }

/-- What a name stands for at a place. Only where files can be put do names have a greatest length. -/
def look (d : Folder) (place : Place) (name : String) : Except FileTrouble Found :=
  if d.around.longestName < name.utf8ByteSize && !d.around.isVirtualAt place then
    .error .nameTooLong
  else .ok <| match place with
    | .folder => if (d.find? name).isSome then .file else .nothing
    | .system names => d.around.look (names ++ [name])

/-- The directory to which steps lead from a place. -/
def walk (d : Folder) : Place → List PathStep → Except FileTrouble Place
  | place, [] => .ok place
  | place, .stay :: rest => walk d place rest
  | place, .up :: rest => walk d (d.around.parent place) rest
  | place, .name s :: rest =>
    match d.look place s with
    | .ok (.directory inner) => walk d inner rest
    | .ok .nothing => .error .notFound
    | .ok _ => .error .notADirectory
    | .error trouble => .error trouble

/-- The directory to which a path leads, and the name of a file in it if the path ends with a name. -/
def approach (d : Folder) (path : String) : Except FileTrouble (Place × Option String) :=
  if path = "" then .error .notFound
  else if d.around.longestPath < path.utf8ByteSize then .error .nameTooLong
  else do
    let p := Path.ofString path
    let place ← d.walk (if p.fromRoot then .root else .folder) p.way
    return match p.last? with
      | none | some .stay => (place, none)
      | some .up => (d.around.parent place, none)
      | some (.name s) => (place, some s)

/-- What reading a directory gives. -/
def readDirectory (d : Folder) (place : Place) : Except FileTrouble Bytes :=
  if d.around.isVirtualAt place then .ok .empty else .error .isADirectory

/-- The contents of the file at a path. -/
def read (d : Folder) (path : String) : Except FileTrouble Bytes := do
  match ← d.approach path with
  | (place, none) => d.readDirectory place
  | (place, some name) =>
    match ← d.look place name with
    | .nothing => throw .notFound
    | .directory inner => d.readDirectory inner
    | .file =>
      if (Path.ofString path).closed then throw .notADirectory
      else (d.find? name).elim (throw .notFound) pure
    | .device v => if (Path.ofString path).closed then throw .notADirectory else v.read

/-- The folder when a file has been written, and what is seen of it otherwise. -/
def write (d : Folder) (w : Writing) : Except FileTrouble (Folder × Shown) := do
  match ← d.approach w.path with
  | (_, none) => throw .isADirectory
  | (place, some name) =>
    if (Path.ofString w.path).closed then throw .isADirectory
    match ← d.look place name with
    | .directory _ => throw .isADirectory
    | .device v => return (d, ← v.write w.contents w.synced)
    | .nothing | .file =>
      if d.around.isVirtualAt place then throw .notFound
      else return (if place = .folder then d.put name w.contents else d, {})

/-- Write a blank card to a file. The file is not touched before its contents are known. -/
def writeBlank (d : Folder) (ticks : UInt64) (o : BlankOptions) (path : String) :
    Except Failure Shown × Folder :=
  match o.image ticks with
  | .error failure => (.error failure, d)
  | .ok contents =>
    let complaint := fun trouble ↦ complainIn s!"formatting {path}" (.file trouble)
    match d.write { path, contents, synced := true, complaint } with
    | .error trouble => (.error (.file trouble), d)
    | .ok (d, shown) => (.ok shown, d)

/-- Follow a plan. -/
def follow (d : Folder) (p : Plan) : Finish × Folder :=
  match p.writing? with
  | none => (p.finish (.ok ()), d)
  | some w =>
    match d.write w with
    | .error trouble => (p.finish (.error trouble), d)
    | .ok (d, shown) =>
      ({ exitCode := 0
         output := joinLines p.before ++ shown.output ++ joinLines p.after
         errors := shown.errors }, d)

/-- Run the program with the given words on its command line. -/
def run (d : Folder) (clock : Clock) (words : List String) : Finish × Folder :=
  match Command.ofWords words with
  | .error finish => (finish, d)
  | .ok command =>
    match command.plan clock (command.input?.elim (.ok .empty) d.read) with
    | .error complaint => (.ofComplaint [] complaint, d)
    | .ok p => d.follow p

end Folder
end MemoryCard.CommandLine
