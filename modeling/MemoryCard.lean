import MemoryCard.Allocation.Table
import MemoryCard.Allocation.Walk
import MemoryCard.Blank
import MemoryCard.BlockSet
import MemoryCard.Bytes
import MemoryCard.Calendar
import MemoryCard.Card.Basic
import MemoryCard.Card.Event
import MemoryCard.Card.Operation
import MemoryCard.Card.Salvage
import MemoryCard.Card.Search
import MemoryCard.Charset
import MemoryCard.CommandLine.Command
import MemoryCard.CommandLine.Display
import MemoryCard.CommandLine.Folder
import MemoryCard.CommandLine.Plan
import MemoryCard.CommandLine.Surroundings
import MemoryCard.CommandLine.Usage
import MemoryCard.Condition
import MemoryCard.Copies
import MemoryCard.Directory.Entry
import MemoryCard.Directory.Table
import MemoryCard.DualSum
import MemoryCard.Failure
import MemoryCard.Geometry
import MemoryCard.Header
import MemoryCard.Hex
import MemoryCard.Image
import MemoryCard.Main
import MemoryCard.Proofs.Allocation
import MemoryCard.Proofs.BlockSearch
import MemoryCard.Proofs.Bytes
import MemoryCard.Proofs.Card.Accounting
import MemoryCard.Proofs.Card.Agreement
import MemoryCard.Proofs.Card.Atomicity
import MemoryCard.Proofs.Card.Batch
import MemoryCard.Proofs.Card.Blank
import MemoryCard.Proofs.Card.Choice
import MemoryCard.Proofs.Card.ChosenChain
import MemoryCard.Proofs.Card.Consistency
import MemoryCard.Proofs.Card.Damage
import MemoryCard.Proofs.Card.Exchange
import MemoryCard.Proofs.Card.Independence
import MemoryCard.Proofs.Card.Inventory
import MemoryCard.Proofs.Card.Listing
import MemoryCard.Proofs.Card.Locality
import MemoryCard.Proofs.Card.Observers
import MemoryCard.Proofs.Card.Overrun
import MemoryCard.Proofs.Card.Ownership
import MemoryCard.Proofs.Card.Payload
import MemoryCard.Proofs.Card.RecordedLength
import MemoryCard.Proofs.Card.Recovery
import MemoryCard.Proofs.Card.Repetition
import MemoryCard.Proofs.Card.Run
import MemoryCard.Proofs.Card.Safety
import MemoryCard.Proofs.Card.Salvage
import MemoryCard.Proofs.Card.Search
import MemoryCard.Proofs.Card.Selection
import MemoryCard.Proofs.Card.SharedBlocks
import MemoryCard.Proofs.Card.Stored
import MemoryCard.Proofs.Card.Trailing
import MemoryCard.Proofs.Card.Verdict
import MemoryCard.Proofs.Card.Written
import MemoryCard.Proofs.Careful.Basic
import MemoryCard.Proofs.Careful.Card
import MemoryCard.Proofs.Careful.Reading
import MemoryCard.Proofs.Careful.Seal
import MemoryCard.Proofs.Careful.Tables
import MemoryCard.Proofs.Chain
import MemoryCard.Proofs.CommandLine.Format
import MemoryCard.Proofs.DualSum
import MemoryCard.Proofs.Encoding
import MemoryCard.Proofs.Geometry
import MemoryCard.Proofs.Holds
import MemoryCard.Proofs.Image
import MemoryCard.Proofs.Result
import MemoryCard.Proofs.Rewriting
import MemoryCard.Proofs.Seal
import MemoryCard.Proofs.Sealing
import MemoryCard.Proofs.Sighting
import MemoryCard.Proofs.System
import MemoryCard.Proofs.Tables
import MemoryCard.Proofs.Title
import MemoryCard.Proofs.Walk
import MemoryCard.Report.Basic
import MemoryCard.Report.Json
import MemoryCard.Report.Sha256
import MemoryCard.Save.BlockSearch
import MemoryCard.Save.File
import MemoryCard.Save.Sighting
import MemoryCard.Seal
import MemoryCard.Tables
import MemoryCard.Text.JisTable
import MemoryCard.Text.ShiftJis
import MemoryCard.Text.Title
import MemoryCard.Text.Unicode
import MemoryCard.Text.Windows1252
