import GoldenRun.Batch
import GoldenRun.Command.Arguments
import GoldenRun.Command.Execution
import GoldenRun.Comparison
import GoldenRun.Corpus
import GoldenRun.Decimal.Binary
import GoldenRun.Decimal.Shortest
import GoldenRun.Disk.Basic
import GoldenRun.Disk.Changes
import GoldenRun.Disk.Edit
import GoldenRun.Disk.Lookup
import GoldenRun.Duration
import GoldenRun.ExitStatus
import GoldenRun.Failure
import GoldenRun.Fault
import GoldenRun.Image
import GoldenRun.Job
import GoldenRun.Json.Record
import GoldenRun.Json.Token
import GoldenRun.Json.Value
import GoldenRun.Listing.Cursor
import GoldenRun.Listing.Instruction
import GoldenRun.Machine
import GoldenRun.Main
import GoldenRun.Path
import GoldenRun.Pattern.Bracket
import GoldenRun.Pattern.CharSet
import GoldenRun.Pattern.Escape
import GoldenRun.Pattern.Expr
import GoldenRun.Pattern.Group
import GoldenRun.Pattern.Reader
import GoldenRun.Pattern.Regex
import GoldenRun.Pattern.Tool
import GoldenRun.Proofs.Batch
import GoldenRun.Proofs.Comparison
import GoldenRun.Proofs.Comparison.Laziness
import GoldenRun.Proofs.Corpus
import GoldenRun.Proofs.Disk.Contents
import GoldenRun.Proofs.Disk.Frame
import GoldenRun.Proofs.Disk.Making
import GoldenRun.Proofs.Disk.Removal
import GoldenRun.Proofs.Disk.Tree
import GoldenRun.Proofs.Disk.Vacancy
import GoldenRun.Proofs.Disk.Walk
import GoldenRun.Proofs.Disk.Ways
import GoldenRun.Proofs.Image.Extraction
import GoldenRun.Proofs.Image.RoundTrip
import GoldenRun.Proofs.Job.Attempt
import GoldenRun.Proofs.Job.Contract
import GoldenRun.Proofs.Job.Course
import GoldenRun.Proofs.Job.Dialogue
import GoldenRun.Proofs.Job.Ensures
import GoldenRun.Proofs.Job.Interleaving
import GoldenRun.Proofs.Job.Launches
import GoldenRun.Proofs.Job.Returns
import GoldenRun.Proofs.Job.Trace
import GoldenRun.Proofs.Json.Record
import GoldenRun.Proofs.Json.Token
import GoldenRun.Proofs.Json.Value
import GoldenRun.Proofs.Listing.Cursor
import GoldenRun.Proofs.Listing.Expression
import GoldenRun.Proofs.Listing.Grammar
import GoldenRun.Proofs.Machine.Tools
import GoldenRun.Proofs.Machine.Twins
import GoldenRun.Proofs.Path
import GoldenRun.Proofs.Pattern.Literal
import GoldenRun.Proofs.Pattern.Matching
import GoldenRun.Proofs.Pattern.Naming
import GoldenRun.Proofs.Pattern.Reading
import GoldenRun.Proofs.Scope
import GoldenRun.Proofs.Search
import GoldenRun.Proofs.Settings.Json
import GoldenRun.Proofs.Settings.Source
import GoldenRun.Proofs.Stream
import GoldenRun.Proofs.Suite.Generation
import GoldenRun.Proofs.Suite.Ident
import GoldenRun.Proofs.Suite.Listing
import GoldenRun.Proofs.Suite.Rejection
import GoldenRun.Proofs.Text.Hex
import GoldenRun.Proofs.Text.Lines
import GoldenRun.Proofs.Text.Order
import GoldenRun.Proofs.Text.Quoted
import GoldenRun.Proofs.Text.Utf8
import GoldenRun.Proofs.Trial.Abreast
import GoldenRun.Proofs.Trial.Answers
import GoldenRun.Proofs.Trial.Career
import GoldenRun.Proofs.Trial.Chronicle
import GoldenRun.Proofs.Trial.Conduct
import GoldenRun.Proofs.Trial.Confinement
import GoldenRun.Proofs.Trial.Corpus
import GoldenRun.Proofs.Trial.Dump
import GoldenRun.Proofs.Trial.Files
import GoldenRun.Proofs.Trial.ImageFile
import GoldenRun.Proofs.Trial.Launching
import GoldenRun.Proofs.Trial.Life
import GoldenRun.Proofs.Trial.Object
import GoldenRun.Proofs.Trial.Once
import GoldenRun.Proofs.Trial.Parallel
import GoldenRun.Proofs.Trial.Pipeline
import GoldenRun.Proofs.Trial.Plot
import GoldenRun.Proofs.Trial.Reuse
import GoldenRun.Proofs.Trial.Run
import GoldenRun.Proofs.Trial.Setback
import GoldenRun.Proofs.Trial.Sight
import GoldenRun.Proofs.Trial.Steps
import GoldenRun.Proofs.Trial.Worlds
import GoldenRun.Rehearsal.Script
import GoldenRun.Rehearsal.Session
import GoldenRun.Search
import GoldenRun.Settings.Basic
import GoldenRun.Settings.Json
import GoldenRun.Settings.Source
import GoldenRun.Simulation
import GoldenRun.Stream
import GoldenRun.Suite.Generation
import GoldenRun.Suite.Ident
import GoldenRun.Suite.Listing
import GoldenRun.Text.Blank
import GoldenRun.Text.Digit
import GoldenRun.Text.Folding
import GoldenRun.Text.Hex
import GoldenRun.Text.Letter
import GoldenRun.Text.Lines
import GoldenRun.Text.Pieces
import GoldenRun.Text.Printable
import GoldenRun.Text.Quoted
import GoldenRun.Text.Ranges
import GoldenRun.Text.Utf8
import GoldenRun.Text.Word
import GoldenRun.Tool
import GoldenRun.Trial.Basic
import GoldenRun.Trial.Files
import GoldenRun.Trial.Name
