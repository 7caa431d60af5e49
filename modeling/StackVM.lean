import StackVM.CommandLine
import StackVM.Main
import StackVM.Proofs.Structural
import StackVM.Proofs.Machine.Instruction
import StackVM.Proofs.Machine.Segment
import StackVM.Proofs.Machine.Unwinding
import StackVM.Proofs.Machine.Subroutine
import StackVM.Proofs.Machine.Isolation
import StackVM.Proofs.Machine.Ending
import StackVM.Proofs.CommandLine.ExitCode
import StackVM.Proofs.Machine.Failure
import StackVM.Proofs.Machine.Memory
import StackVM.Proofs.Shell.Quoting
import StackVM.Proofs.Text.Quoted
import StackVM.Proofs.Number.Text
import StackVM.Proofs.Value.Fingerprint
import StackVM.Proofs.Machine.Halting
import StackVM.Proofs.Machine.Warnings
import StackVM.Proofs.Builtin.Locality
import StackVM.Proofs.Json.Token
import StackVM.Proofs.Json.Document
import StackVM.Proofs.Number.Parts
import StackVM.Proofs.Number.Nearest
import StackVM.Proofs.Number.Shortest
import StackVM.Proofs.Json.Numeral
import StackVM.Proofs.Number.Integer
import StackVM.Proofs.Value.Json
import StackVM.Proofs.Machine.Sentinel
import StackVM.Proofs.Record
import StackVM.Proofs.Value.Place
import StackVM.Proofs.Machine.Insertion
import StackVM.Proofs.Program.Wire
import StackVM.Proofs.Program.Loading
import StackVM.Proofs.Value.Sorting
import StackVM.Proofs.Sequence.Position
import StackVM.Proofs.Builtin.Indexing
import StackVM.Proofs.Builtin.Splicing
import StackVM.Proofs.Text.Distance
import StackVM.Proofs.Value.Equality
import StackVM.Proofs.Sequence.Membership
import StackVM.Proofs.Builtin.Sets
import StackVM.Proofs.Text.Search
import StackVM.Proofs.Text.Utf8
import StackVM.Proofs.Encoding.Base64
import StackVM.Proofs.Number.Exact
import StackVM.Proofs.Number.Plain
import StackVM.Proofs.Number.Value
import StackVM.Proofs.Encoding.Bytes
import StackVM.Proofs.Encoding.Radix
import StackVM.Proofs.Calendar
import StackVM.Proofs.Builtin.Epoch
import StackVM.Proofs.Builtin.Objects
import StackVM.Proofs.Builtin.Packing
import StackVM.Proofs.Builtin.Slicing
import StackVM.Proofs.Value.Comparison
import StackVM.Proofs.Builtin.Drawing
import StackVM.Proofs.Builtin.Clock
import StackVM.Proofs.Builtin.Searching
import StackVM.Proofs.Builtin.Duplicates
import StackVM.Proofs.Value.Flattening
import StackVM.Proofs.Diagnostic
import StackVM.Proofs.Pattern.Automaton
import StackVM.Proofs.Pattern.Matching
import StackVM.Proofs.Pattern.Completeness
import StackVM.Proofs.Pattern.Language
import StackVM.Proofs.Pattern.Scanning
import StackVM.Proofs.Pattern.Reading
import StackVM.Proofs.Pattern.Anchoring
import StackVM.Proofs.Pattern.Literal
import StackVM.Proofs.Pattern.Room
import StackVM.Proofs.Pattern.Quoting
import StackVM.Proofs.Host.Wildcard
