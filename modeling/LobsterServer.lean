import LobsterServer.Character.Composition
import LobsterServer.Character.Direction
import LobsterServer.Character.Joining
import LobsterServer.Character.Mark
import LobsterServer.Character.Ranges
import LobsterServer.CommandLine.Options
import LobsterServer.CommandLine.Report
import LobsterServer.Compiler.Findings
import LobsterServer.Compiler.Produce
import LobsterServer.Compiler.Run
import LobsterServer.Diagnostic
import LobsterServer.Document.Basic
import LobsterServer.Document.Location
import LobsterServer.ErrorState
import LobsterServer.Host.Comparison
import LobsterServer.Host.Decimal
import LobsterServer.Host.Files
import LobsterServer.Host.Format
import LobsterServer.Host.Number
import LobsterServer.Host.Pattern
import LobsterServer.Host.Program
import LobsterServer.Host.Raw
import LobsterServer.Host.Shell.Arithmetic
import LobsterServer.Host.Shell.Builtin
import LobsterServer.Host.Shell.Execution
import LobsterServer.Host.Shell.Expansion
import LobsterServer.Host.Shell.Field
import LobsterServer.Host.Shell.Invocation
import LobsterServer.Host.Shell.Launch
import LobsterServer.Host.Shell.Order
import LobsterServer.Host.Shell.Reader
import LobsterServer.Host.Shell.Redirection
import LobsterServer.Host.Shell.Scan
import LobsterServer.Host.Shell.Script
import LobsterServer.Host.Shell.Signal
import LobsterServer.Host.Shell.State
import LobsterServer.Host.System
import LobsterServer.Host.Tool.Argument
import LobsterServer.Host.Tool.Bytes
import LobsterServer.Host.Tool.Copy
import LobsterServer.Host.Tool.Count
import LobsterServer.Host.Tool.Idle
import LobsterServer.Host.Tool.Table
import LobsterServer.Host.Tool.Wait
import LobsterServer.Host.World
import LobsterServer.Json.Basic
import LobsterServer.Json.Printer
import LobsterServer.Json.Shape
import LobsterServer.Main
import LobsterServer.Path
import LobsterServer.Position
import LobsterServer.Proofs.Compiler.Codes
import LobsterServer.Proofs.Compiler.CopyPlace
import LobsterServer.Proofs.Compiler.Failure
import LobsterServer.Proofs.Compiler.Ranges
import LobsterServer.Proofs.Document.Fixes
import LobsterServer.Proofs.Document.Keyword
import LobsterServer.Proofs.Document.LineEnd
import LobsterServer.Proofs.Document.QuickFix
import LobsterServer.Proofs.Document.ScratchPath
import LobsterServer.Proofs.Document.Synchronisation
import LobsterServer.Proofs.Host.System
import LobsterServer.Proofs.Protocol.Echo
import LobsterServer.Proofs.Rehearsal.Runs
import LobsterServer.Proofs.Report.Grammar
import LobsterServer.Proofs.Report.Passages
import LobsterServer.Proofs.Report.RoundTrip
import LobsterServer.Proofs.Server.Arrival
import LobsterServer.Proofs.Server.Attendance
import LobsterServer.Proofs.Server.Cache
import LobsterServer.Proofs.Server.Documents
import LobsterServer.Proofs.Server.EditorView
import LobsterServer.Proofs.Server.Episodes
import LobsterServer.Proofs.Server.Numbering
import LobsterServer.Proofs.Server.Pairing
import LobsterServer.Proofs.Server.Passes
import LobsterServer.Proofs.Server.Push
import LobsterServer.Proofs.Server.QuickFix
import LobsterServer.Proofs.Server.Quiet
import LobsterServer.Proofs.Server.Record
import LobsterServer.Proofs.Server.Rest
import LobsterServer.Proofs.Server.ScratchCopy
import LobsterServer.Proofs.Server.Stretch
import LobsterServer.Proofs.Server.Tasks
import LobsterServer.Proofs.Server.Verdicts
import LobsterServer.Proofs.Settings.Imports
import LobsterServer.Proofs.Settings.Overlap
import LobsterServer.Proofs.Settings.ProbedExecutable
import LobsterServer.Proofs.Settings.SingleFlight
import LobsterServer.Proofs.Store.History
import LobsterServer.Proofs.Store.Independence
import LobsterServer.Proofs.Store.Operation
import LobsterServer.Proofs.Store.Publication
import LobsterServer.Proofs.Text.Correspondence
import LobsterServer.Proofs.Text.Decoding
import LobsterServer.Proofs.Text.Lines
import LobsterServer.Proofs.Text.Location
import LobsterServer.Proofs.Text.Number
import LobsterServer.Proofs.Text.Occurrence
import LobsterServer.Proofs.Text.Pieces
import LobsterServer.Proofs.Text.Place
import LobsterServer.Proofs.Text.Units
import LobsterServer.Proofs.Uri.Path
import LobsterServer.Protocol.Capabilities
import LobsterServer.Protocol.Decode
import LobsterServer.Protocol.Encode
import LobsterServer.QuickFix
import LobsterServer.Rehearsal.Bench
import LobsterServer.Rehearsal.Compile
import LobsterServer.Rehearsal.Record
import LobsterServer.Rehearsal.Script
import LobsterServer.Rehearsal.Session
import LobsterServer.Report.Line
import LobsterServer.Report.Reading
import LobsterServer.Scratch
import LobsterServer.Server.State
import LobsterServer.Server.Step
import LobsterServer.Settings.Basic
import LobsterServer.Settings.Decode
import LobsterServer.Settings.Resolver
import LobsterServer.SipHash
import LobsterServer.Store
import LobsterServer.Table
import LobsterServer.Text.Basic
import LobsterServer.Text.Blank
import LobsterServer.Text.Digit
import LobsterServer.Text.Line
import LobsterServer.Text.Lossy
import LobsterServer.Text.Search
import LobsterServer.Text.Terminal
import LobsterServer.Uri
import LobsterServer.Uri.Address
import LobsterServer.Uri.Authority
import LobsterServer.Uri.Host
import LobsterServer.Uri.Label
import LobsterServer.Uri.Label.Mapping
import LobsterServer.Uri.Percent
import LobsterServer.Uri.Punycode
import LobsterServer.Uri.Scheme
import LobsterServer.Uri.Trail
