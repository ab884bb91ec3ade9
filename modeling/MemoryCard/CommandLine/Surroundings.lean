import MemoryCard.Bytes
import MemoryCard.Failure

/-! # Around the folder

The folder in which the program runs lies in a system with directories and devices of its own. Which of
them there are, and what they do with what is written to them, is the system's affair and differs from
one to the next. Every place has a parent, and the root is its own parent.
-/

namespace MemoryCard.CommandLine

/-- A directory to which a path leads. -/
inductive Place where
  /-- The folder itself. -/
  | folder
  /-- The directory to which the names lead from the root. -/
  | system (names : List String)
deriving DecidableEq, Repr

def Place.root : Place := .system []

/-- What is seen of bytes that a device takes. -/
structure Shown where
  output : String := ""
  errors : String := ""
deriving DecidableEq, Repr

/-- A file that is no storage. -/
structure Device where
  read : Except FileTrouble Bytes
  /-- What comes of bytes, and of the wish that they have reached a medium. -/
  write : Bytes → Bool → Except FileTrouble Shown

/-- What a name stands for. -/
inductive Found where
  | nothing
  | directory (place : Place)
  | file
  | device (v : Device)

/-- The system in which the folder lies. Names lead from its root. -/
structure Surroundings where
  /-- The directory in which the folder lies. -/
  home : List String
  look : List String → Found
  /-- A directory that shows the state of the system. It has no size, and no file can be put there. -/
  isVirtual : List String → Bool
  /-- The longest name of a file in bytes. -/
  longestName : Nat
  /-- The longest path in bytes. -/
  longestPath : Nat

namespace Surroundings

def parent (s : Surroundings) : Place → Place
  | .folder => .system s.home
  | .system names => .system names.dropLast

/-- No file can be put there. -/
def isVirtualAt (s : Surroundings) : Place → Bool
  | .folder => false
  | .system names => s.isVirtual names

end Surroundings
end MemoryCard.CommandLine
