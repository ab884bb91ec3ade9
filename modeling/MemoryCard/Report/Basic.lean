import MemoryCard.Card.Basic
import MemoryCard.Report.Json
import MemoryCard.Report.Sha256

/-! # Reports

A report is a JSON document about a card: the image with its digest, the header, the state of the tables,
and every file with its chain and the digest of its data.
-/

namespace MemoryCard.Report

/-- The name under which reports are written. -/
def toolName : String := "gcn-recover"

/-- Stands in the place of the path of an image that has none. -/
def memoryPath : String := "<memory>"

/-- What a report needs besides the card. -/
structure Context where
  /-- The time of the report. -/
  timestamp : String
  version : String
  /-- How many sightings the search had. -/
  sightings : Nat

def word16 (n : UInt16) : Json := .number n.toNat

def sum (c : SumCheck) : Json :=
  .object [("expected", .number c.stored.toNat), ("actual", .number c.computed.toNat)]

def metadata (card : Card) (context : Context) : Json :=
  .object [
    ("timestamp", .text context.timestamp),
    ("tool_name", .text toolName),
    ("version", .text context.version),
    ("image_path", .text (card.image.path?.getD memoryPath)),
    ("image_sha256", .text (Sha256.text card.image.bytes))]

def summary (card : Card) : Json :=
  .object [
    ("size_bytes", .number card.image.size),
    ("size_in_blocks", word16 card.size),
    ("header_size_in_blocks", .number card.header.declaredBlocks),
    ("free_blocks", word16 card.free),
    ("serial_number", .text card.header.serialText),
    ("encoding", .text card.charset.name),
    ("header_checksum", sum card.headerSum),
    ("errors", .array (card.conditions.names.map .text))]

def tableCopy {α : Type} (counter : α → UInt16) (c : Checked α) : Json :=
  .object [
    ("update_counter", word16 (counter c.table)),
    ("checksum", sum c.sum),
    ("valid", .bool c.valid)]

def copiesMembers {α : Type} (table : String) (counter : α → UInt16) (t : Copies α) :
    List (String × Json) :=
  [(table ++ "_active", .number t.inUse.val),
   (table ++ "_header_preference", .ofOption (fun c ↦ .number c.val) t.cardChoice?),
   (table ++ "_copies", .array [tableCopy counter t.first, tableCopy counter t.second])]

def tables (t : Tables) : Json :=
  .object (copiesMembers "dat" Directory.counter t.directories
    ++ copiesMembers "bat" Allocation.counter t.allocations)

def issues (i : Issues) : Json :=
  .object [
    ("corrupt", .ofOption (fun d ↦ .text d.message) i.defect?),
    ("count_mismatch", .ofOption (fun (a, b) ↦ .array [word16 a, word16 b]) i.mismatch?),
    ("cross_linked", .bool i.crossLinked)]

/-- The digest of the data of a file. -/
def fileDigest? (image : Image) (f : SaveFile) : Option String :=
  match f.blocks image with
  | .ok blocks => some (Sha256.text (blocks.foldl (· ++ ·) .empty))
  | .error _ => none

def file (image : Image) (index : Nat) (f : SaveFile) : Json :=
  let lost : Option (Basis × Bool) := match f.origin with
    | .regular _ => none
    | .lost basis credible => some (basis, credible)
  .object [
    ("index", .number index),
    ("id6", .text f.entry.idText),
    ("filename", .text f.name),
    ("provenance", .text f.origin.name),
    ("basis", .ofOption (fun (basis, _) ↦ .text basis.name) lost),
    ("shape_match", .ofOption (fun (_, credible) ↦ .bool credible) lost),
    ("first_block", word16 f.entry.firstBlock),
    ("length", word16 f.entry.length),
    ("chain", .array (f.chain.map word16)),
    ("issues", issues f.issues),
    ("last_modified", .text f.entry.modifiedText),
    ("sha256", .ofOption .text (fileDigest? image f))]

/-- The report on a card. -/
def ofCard (card : Card) (context : Context) : Json :=
  .object [
    ("metadata", metadata card context),
    ("card", summary card),
    ("tables", tables card.tables),
    ("files", .array (card.files.zipIdx.map fun (f, i) ↦ file card.image i f)),
    ("candidates_found", .number context.sightings)]

/-- The text of the report on a card. -/
def render (card : Card) (context : Context) : String := (ofCard card context).print

end MemoryCard.Report
