import MemoryCard.Condition

/-! # Failures

Why an operation on a card did not succeed, each cause with the values it concerns. `Failure.message`
has the wording.
-/

namespace MemoryCard

/-- Why a chain of blocks is not a sound chain. -/
inductive ChainDefect where
  | firstOutside (size : UInt16)
  | firstFree
  | longerThan (limit : Nat)
  | revisited (block : UInt16)
  | unlisted (block : UInt16)
  | linkToFree (block : UInt16)
  | linkToSystem (block next : UInt16)
  | linkPastEnd (block next : UInt16)
  | zeroLength
  | beyondCard (first : UInt16) (stop : Nat) (size : UInt16)
  | emptyChain
  | notDataBlock (block : UInt16)
  | repeated (block : UInt16)
deriving DecidableEq, Repr

def ChainDefect.message : ChainDefect → String
  | .firstOutside size => s!"first block outside data range {systemBlocks}..{size}"
  | .firstFree => "first block is marked free"
  | .longerThan limit => s!"chain longer than {limit} data blocks"
  | .revisited block => s!"block {block} visited twice"
  | .unlisted block => s!"no allocation entry for block {block}"
  | .linkToFree block => s!"block {block} links to a free entry"
  | .linkToSystem block next => s!"block {block} links to system block {next}"
  | .linkPastEnd block next => s!"block {block} links past the end of the card ({next})"
  | .zeroLength => "zero-length file"
  | .beyondCard first stop size => s!"blocks {first}..{stop} exceed the card ({size} blocks)"
  | .emptyChain => "empty chain"
  | .notDataBlock block => s!"block {block} is not a data block"
  | .repeated block => s!"block {block} appears twice"

/-- Why a file could not be opened or written. -/
inductive FileTrouble where
  | notFound
  | noDevice
  | notADirectory
  | isADirectory
  | invalidArgument
  | noSpace
  | nameTooLong
  | other (text : String)
deriving DecidableEq, Repr

def FileTrouble.message : FileTrouble → String
  | .notFound => "No such file or directory (os error 2)"
  | .noDevice => "No such device or address (os error 6)"
  | .notADirectory => "Not a directory (os error 20)"
  | .isADirectory => "Is a directory (os error 21)"
  | .invalidArgument => "Invalid argument (os error 22)"
  | .noSpace => "No space left on device (os error 28)"
  | .nameTooLong => "File name too long (os error 36)"
  | .other text => text

inductive Failure where
  | file (trouble : FileTrouble)
  /-- The file at a path cannot be mapped into memory. -/
  | notMappable (path : String)
  | sizeInvalid (conditions : Conditions)
  | headerInvalid
  | directoriesInvalid
  | allocationInvalid
  /-- A structure needs more bytes than there are. -/
  | tooShort (what : String) (needed got : Nat)
  | corruptChain (first : UInt16) (defect : ChainDefect)
  | lengthMismatch (recorded found : UInt16)
  | overlap (block : UInt16)
  | noSuchBlock (index size : Nat)
  | smallBuffer (needed got : Nat)
  | noSuchCopy (copy : UInt8)
  | invalidArgument (reason : String)
  /-- No failure that is reported: the program breaks off in a panic. -/
  | panic
deriving DecidableEq, Repr

namespace Failure

def message : Failure → String
  | file trouble => "IO error: " ++ trouble.message
  | notMappable path =>
    s!"Memory mapping error: Failed to mmap {path}: No such device (os error 19)"
  | sizeInvalid conditions => "Invalid card size: " ++ conditions.text
  | headerInvalid => "Header checksum is invalid"
  | directoriesInvalid => "Both directory tables are invalid"
  | allocationInvalid => "Both block allocation tables are invalid"
  | tooShort what needed got => s!"Decode error: {what} needs {needed} bytes, got {got}"
  | corruptChain first defect =>
    s!"Corrupt block chain starting at block {first}: " ++ defect.message
  | lengthMismatch recorded found =>
    s!"Block chain length {found} does not match recorded block count {recorded}"
  | overlap block => s!"Block {block} is already used by a regular file"
  | noSuchBlock index size => s!"Block index {index} is out of range (card has {size} blocks)"
  | smallBuffer needed got => s!"Buffer too small: need {needed} bytes, got {got}"
  | noSuchCopy copy => s!"Invalid table index: {copy} (must be 0 or 1)"
  | invalidArgument reason => "Invalid argument: " ++ reason
  | panic => "panic"

/-- The failures behind this one, the nearest first, as they are told in a row. -/
def causes : Failure → List String
  | file trouble => [trouble.message]
  | _ => []

end Failure

/-- The most severe condition of the set as a failure. -/
def Conditions.failure? (s : Conditions) : Option Failure :=
  s.mostSevere?.map fun
    | .tooSmall | .tooBig | .notPowerOfTwo => .sizeInvalid s.ofSizeOnly
    | .badHeader => .headerInvalid
    | .badDirectories => .directoriesInvalid
    | .badAllocation => .allocationInvalid

/-- `need what n got` succeeds if a structure of `n` bytes fits into the `got` bytes there are. -/
def need (what : String) (n got : Nat) : Except Failure Unit :=
  if got < n then .error (.tooShort what n got) else .ok ()

/-- The answer to a request. The program panics if there is none. -/
def orPanic {α : Type} (answer? : Option α) : Except Failure α := answer?.elim (.error .panic) .ok

/-- `needRange start stop size` succeeds if a buffer of `size` bytes has those from `start` to the one
before `stop`. The program panics if it has not. -/
def needRange (start stop size : Nat) : Except Failure Unit :=
  if start ≤ stop ∧ stop ≤ size then .ok () else .error .panic

end MemoryCard
