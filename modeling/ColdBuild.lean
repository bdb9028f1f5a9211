import ColdBuild.Benchmark
import ColdBuild.Binary64
import ColdBuild.CommandLine.Arguments
import ColdBuild.CommandLine.Help
import ColdBuild.CommandLine.Integer
import ColdBuild.CommandLine.Options
import ColdBuild.Config
import ColdBuild.Decimal.Numeral
import ColdBuild.Decimal.Reading
import ColdBuild.Decimal.Shortest
import ColdBuild.Duration
import ColdBuild.Environment
import ColdBuild.Error
import ColdBuild.Host
import ColdBuild.Json
import ColdBuild.Log
import ColdBuild.Machine
import ColdBuild.Machine.Calendar
import ColdBuild.Machine.Condition
import ColdBuild.Machine.Digest
import ColdBuild.Machine.FileSystem
import ColdBuild.Machine.Format
import ColdBuild.Machine.Loading
import ColdBuild.Machine.Make.Calling
import ColdBuild.Machine.Make.Expansion
import ColdBuild.Machine.Make.Maker
import ColdBuild.Machine.Make.Reading
import ColdBuild.Machine.Make.Updating
import ColdBuild.Machine.Make.Word
import ColdBuild.Machine.Octets
import ColdBuild.Machine.Process
import ColdBuild.Machine.Shell.Arithmetic
import ColdBuild.Machine.Shell.Builtin
import ColdBuild.Machine.Shell.Evaluator
import ColdBuild.Machine.Shell.Expansion
import ColdBuild.Machine.Shell.Invocation
import ColdBuild.Machine.Shell.Pattern
import ColdBuild.Machine.Shell.Reader
import ColdBuild.Machine.Shell.State
import ColdBuild.Machine.Shell.Syntax
import ColdBuild.Machine.Utility.Blocks
import ColdBuild.Machine.Utility.Call
import ColdBuild.Machine.Utility.Comparing
import ColdBuild.Machine.Utility.Dumping
import ColdBuild.Machine.Utility.EditScript
import ColdBuild.Machine.Utility.Editing
import ColdBuild.Machine.Utility.Fields
import ColdBuild.Machine.Utility.Files
import ColdBuild.Machine.Utility.Finding
import ColdBuild.Machine.Utility.Lines
import ColdBuild.Machine.Utility.Listing
import ColdBuild.Machine.Utility.Running
import ColdBuild.Machine.Utility.Search
import ColdBuild.Machine.Utility.Surroundings
import ColdBuild.Machine.Utility.Table
import ColdBuild.Machine.Utility.Words
import ColdBuild.Main
import ColdBuild.OsFault
import ColdBuild.Path
import ColdBuild.Proofs.Binary64.Accuracy
import ColdBuild.Proofs.Binary64.Exact
import ColdBuild.Proofs.Binary64.Nearest
import ColdBuild.Proofs.Binary64.Order
import ColdBuild.Proofs.CommandLine.Arguments
import ColdBuild.Proofs.CommandLine.Integer
import ColdBuild.Proofs.Config.Acceptance
import ColdBuild.Proofs.Decimal.Digits
import ColdBuild.Proofs.Decimal.Fixed
import ColdBuild.Proofs.Decimal.Notation
import ColdBuild.Proofs.Decimal.Numeral
import ColdBuild.Proofs.Decimal.Reading
import ColdBuild.Proofs.Decimal.Search
import ColdBuild.Proofs.Decimal.Shortest
import ColdBuild.Proofs.Duration.Accuracy
import ColdBuild.Proofs.Duration.Order
import ColdBuild.Proofs.Duration.Range
import ColdBuild.Proofs.Environment
import ColdBuild.Proofs.Host.Recording
import ColdBuild.Proofs.Json
import ColdBuild.Proofs.Log
import ColdBuild.Proofs.Machine.Calendar
import ColdBuild.Proofs.Machine.FileSystem
import ColdBuild.Proofs.Machine.Host
import ColdBuild.Proofs.Machine.Make.Updating
import ColdBuild.Proofs.Machine.Make.Word
import ColdBuild.Proofs.Machine.Shell.Expansion
import ColdBuild.Proofs.Machine.Shell.Pattern
import ColdBuild.Proofs.Machine.Shell.Quoting
import ColdBuild.Proofs.Machine.Utility.Comparing
import ColdBuild.Proofs.Machine.Utility.Recoding
import ColdBuild.Proofs.Machine.Writing
import ColdBuild.Proofs.Outcome
import ColdBuild.Proofs.Path
import ColdBuild.Proofs.Regex.Class
import ColdBuild.Proofs.Regex.Longest
import ColdBuild.Proofs.Regex.Matching
import ColdBuild.Proofs.Regex.Posix
import ColdBuild.Proofs.Regex.Ranges
import ColdBuild.Proofs.Report.Document
import ColdBuild.Proofs.Report.Layout
import ColdBuild.Proofs.Report.Metric
import ColdBuild.Proofs.Report.Summary
import ColdBuild.Proofs.Report.Unambiguous
import ColdBuild.Proofs.Rig.Actions
import ColdBuild.Proofs.Rig.Average
import ColdBuild.Proofs.Rig.Comparison
import ColdBuild.Proofs.Rig.Consumption
import ColdBuild.Proofs.Rig.Course
import ColdBuild.Proofs.Rig.Failure
import ColdBuild.Proofs.Rig.Impartial
import ColdBuild.Proofs.Rig.Logging
import ColdBuild.Proofs.Rig.Mean
import ColdBuild.Proofs.Rig.Measurement
import ColdBuild.Proofs.Rig.Pace
import ColdBuild.Proofs.Rig.Peak
import ColdBuild.Proofs.Rig.Relation
import ColdBuild.Proofs.Rig.Sameness
import ColdBuild.Proofs.Rig.Steps
import ColdBuild.Proofs.Session.Colour
import ColdBuild.Proofs.Session.Ending
import ColdBuild.Proofs.Session.Progress
import ColdBuild.Proofs.Tally.Aggregate
import ColdBuild.Proofs.Tally.Book
import ColdBuild.Proofs.Tally.Exact
import ColdBuild.Proofs.Tally.Order
import ColdBuild.Proofs.Tally.Peak
import ColdBuild.Proofs.Text.Quoted
import ColdBuild.Proofs.Text.Styled
import ColdBuild.Proofs.Text.Utf8
import ColdBuild.Regex.Captures
import ColdBuild.Regex.Class
import ColdBuild.Regex.Cursor
import ColdBuild.Regex.Expression
import ColdBuild.Regex.Fault
import ColdBuild.Regex.Meaning
import ColdBuild.Regex.Parser
import ColdBuild.Regex.Posix
import ColdBuild.Regex.Syntax
import ColdBuild.Report
import ColdBuild.Report.Document
import ColdBuild.Report.Summary
import ColdBuild.Rig
import ColdBuild.Rig.Record
import ColdBuild.Rig.Script
import ColdBuild.Rounding
import ColdBuild.Session
import ColdBuild.Tally
import ColdBuild.Text.Blank
import ColdBuild.Text.Quoted
import ColdBuild.Text.Styled
import ColdBuild.Text.Utf8
import ColdBuild.Text.Visible
import ColdBuild.Trial
import ColdBuild.WaitStatus
