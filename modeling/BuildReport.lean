import BuildReport.Board
import BuildReport.Build.Failure
import BuildReport.Build.Object
import BuildReport.Build.Workspace
import BuildReport.CommandLine
import BuildReport.CommandLine.Reach
import BuildReport.CommandLine.Session
import BuildReport.Config
import BuildReport.Config.Load
import BuildReport.Diagnostic
import BuildReport.Diagnostic.Exchange
import BuildReport.Discovery
import BuildReport.Document
import BuildReport.Environment
import BuildReport.FileSystem
import BuildReport.Glob
import BuildReport.Glob.Reader
import BuildReport.Ignore
import BuildReport.Include
import BuildReport.Json
import BuildReport.Main
import BuildReport.Marker
import BuildReport.Marker.Exchange
import BuildReport.MarkerStore
import BuildReport.MarkerTable
import BuildReport.Path
import BuildReport.Placement
import BuildReport.Proofs.Anchors
import BuildReport.Proofs.Brackets
import BuildReport.Proofs.Building
import BuildReport.Proofs.Columns
import BuildReport.Proofs.Decoding
import BuildReport.Proofs.Directives
import BuildReport.Proofs.Directories
import BuildReport.Proofs.Exchange
import BuildReport.Proofs.ExitCode
import BuildReport.Proofs.Expansion
import BuildReport.Proofs.Extensions
import BuildReport.Proofs.Headers
import BuildReport.Proofs.Identity
import BuildReport.Proofs.IncludeLines
import BuildReport.Proofs.LineEnds
import BuildReport.Proofs.Messages
import BuildReport.Proofs.NormalForm
import BuildReport.Proofs.Objects
import BuildReport.Proofs.Order
import BuildReport.Proofs.Output
import BuildReport.Proofs.Pass
import BuildReport.Proofs.PassOrder
import BuildReport.Proofs.Patterns
import BuildReport.Proofs.Positions
import BuildReport.Proofs.Printed
import BuildReport.Proofs.Protocol
import BuildReport.Proofs.Reading
import BuildReport.Proofs.Rearranged
import BuildReport.Proofs.Reconcile
import BuildReport.Proofs.References
import BuildReport.Proofs.Reported
import BuildReport.Proofs.Results
import BuildReport.Proofs.Runs
import BuildReport.Proofs.Session
import BuildReport.Proofs.Shown
import BuildReport.Proofs.Snapshots
import BuildReport.Proofs.SourceRules
import BuildReport.Proofs.Sources
import BuildReport.Proofs.Stops
import BuildReport.Proofs.Tables
import BuildReport.Proofs.Unplaced
import BuildReport.Proofs.WellFormed
import BuildReport.Report.Assembler
import BuildReport.Report.Linker
import BuildReport.Severity
import BuildReport.Snapshot
import BuildReport.Snapshot.Exchange
import BuildReport.Text.Blank
import BuildReport.Text.Digit
import BuildReport.Text.Fold
import BuildReport.Text.Lines
import BuildReport.Text.Scan
import BuildReport.Text.Utf8
import BuildReport.Text.Word
import BuildReport.Toml
import BuildReport.Toml.Draft
import BuildReport.Toml.File
import BuildReport.Toml.Quoted
import BuildReport.Toml.Scalar
import BuildReport.Tool
import BuildReport.Tool.Stop
import BuildReport.Transcript
