import TestReport.CommandLine.Arguments
import TestReport.CommandLine.Run
import TestReport.Config
import TestReport.Coverage
import TestReport.Degraded
import TestReport.Digest
import TestReport.Disk
import TestReport.Extract
import TestReport.Framework
import TestReport.Glob.Paths
import TestReport.Glob.Pattern
import TestReport.Instant.Basic
import TestReport.Instant.Calendar
import TestReport.Instant.Text
import TestReport.Jest
import TestReport.Json.Basic
import TestReport.Json.Error
import TestReport.Json.Plain
import TestReport.Json.Printer
import TestReport.Json.Reader
import TestReport.Json.Scan
import TestReport.Json.Shape
import TestReport.Json.Skip
import TestReport.Json.Tagged
import TestReport.Main
import TestReport.Mocha
import TestReport.Number.Binary64
import TestReport.Number.Power
import TestReport.Number.Saturating
import TestReport.Number.Shortest
import TestReport.Options
import TestReport.Query
import TestReport.Registry
import TestReport.Report.Basic
import TestReport.Report.Wire
import TestReport.Status
import TestReport.SuiteStore
import TestReport.Suites
import TestReport.Text.Blank
import TestReport.Text.Bytes
import TestReport.Text.CharSet
import TestReport.Text.Digits
import TestReport.Text.ErrorKind
import TestReport.Text.Escape
import TestReport.Text.Lines
import TestReport.Text.Path
import TestReport.Text.Quoted
import TestReport.Text.Search
import TestReport.Text.Split
import TestReport.TimeStamp
import TestReport.Toml.Basic
import TestReport.Toml.Document
import TestReport.Toml.Scalar
import TestReport.Toml.Text
import TestReport.Vitest
import TestReport.Proofs.Decoded
import TestReport.Proofs.Suites
import TestReport.Proofs.WellFormed
import TestReport.Proofs.Reruns
import TestReport.Proofs.Calendar
import TestReport.Proofs.Instant
import TestReport.Proofs.Members
import TestReport.Proofs.Plain
import TestReport.Proofs.Wire
import TestReport.Proofs.Finite
import TestReport.Proofs.RoundTrip
import TestReport.Proofs.Grammar
import TestReport.Proofs.Phases
import TestReport.Proofs.Marks
import TestReport.Proofs.Search
import TestReport.Proofs.StockReport
import TestReport.Proofs.Grouping
import TestReport.Proofs.Clock
import TestReport.Proofs.Verdicts
import TestReport.Proofs.Trailing
import TestReport.Proofs.Extraction
import TestReport.Proofs.Unreadable
import TestReport.Proofs.Detection
import TestReport.Proofs.Counts
import TestReport.Proofs.Containers
import TestReport.Proofs.FailedFiles
import TestReport.Proofs.WrittenLines
import TestReport.Proofs.Noise
import TestReport.Proofs.Growth
import TestReport.Proofs.Identity
import TestReport.Proofs.Codec
import TestReport.Proofs.BridgeReport
import TestReport.Proofs.Inputs
import TestReport.Proofs.Outcome
import TestReport.Proofs.Batch
import TestReport.Proofs.Console
import TestReport.Proofs.Queries
import TestReport.Proofs.Skips
import TestReport.Proofs.Hierarchy
import TestReport.Proofs.Slashes
import TestReport.Proofs.SuiteStore
import TestReport.Proofs.KeyedStore
import TestReport.Proofs.Coverage
import TestReport.Proofs.Distance
import TestReport.Proofs.LatestEnd
import TestReport.Proofs.Readings
import TestReport.Proofs.FileOrder
import TestReport.Proofs.Namespaces
import TestReport.Proofs.Excerpts
import TestReport.Proofs.PartialReport
import TestReport.Proofs.TestNames
import TestReport.Proofs.StreamWindow
import TestReport.Proofs.Escapes
import TestReport.Proofs.FailureLines
import TestReport.Proofs.Titles
import TestReport.Proofs.Registrations
import TestReport.Proofs.Registrations
import TestReport.Proofs.Titles
