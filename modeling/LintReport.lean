import LintReport.Binary64.Basic
import LintReport.Binary64.Layout
import LintReport.Binary64.Shortest
import LintReport.Command.Arguments
import LintReport.Command.Help
import LintReport.Command.Run
import LintReport.Command.Usage
import LintReport.Files.Path
import LintReport.Files.Tree
import LintReport.Finding.Basic
import LintReport.Finding.Payload
import LintReport.Finding.Record
import LintReport.Finding.Severity
import LintReport.Inquiry.Basic
import LintReport.Inquiry.World
import LintReport.Json.Basic
import LintReport.Json.Fault
import LintReport.Json.Mismatch
import LintReport.Json.Numeral
import LintReport.Json.Reader
import LintReport.Json.Skip
import LintReport.Json.Text
import LintReport.Json.Writer
import LintReport.Log.Event
import LintReport.Log.Filter
import LintReport.Log.Pattern
import LintReport.Main
import LintReport.Release.Manifest
import LintReport.Release.Status
import LintReport.Release.Version
import LintReport.Report.Delivery
import LintReport.Report.Error
import LintReport.Report.Format
import LintReport.Report.Order
import LintReport.Report.Outlet
import LintReport.Report.Renderer
import LintReport.Report.Sink
import LintReport.Report.Tally
import LintReport.Settings.Basic
import LintReport.Settings.Decode
import LintReport.Settings.Discovery
import LintReport.Settings.Load
import LintReport.Settings.Parse
import LintReport.Text.Alphanumeric
import LintReport.Text.Blank
import LintReport.Text.Decimal
import LintReport.Text.Position
import LintReport.Text.Printable
import LintReport.Text.Quoted
import LintReport.Text.Terminal
import LintReport.Text.Utf8
import LintReport.Toml.Basic
import LintReport.Toml.Document
import LintReport.Toml.Numeral
import LintReport.Toml.Snippet
import LintReport.Toml.Table
import LintReport.Toml.Text
import LintReport.Toml.Value
import LintReport.Proofs.Steps
import LintReport.Proofs.Json.Settled
import LintReport.Proofs.Json.Nesting
import LintReport.Proofs.Json.Numeral
import LintReport.Proofs.Json.Text
import LintReport.Proofs.Json.RoundTrip
import LintReport.Proofs.Finding.Record
import LintReport.Proofs.Finding.Severity
import LintReport.Proofs.Finding.Defects
import LintReport.Proofs.Report.Batch
import LintReport.Proofs.Finding.Attached
import LintReport.Proofs.Finding.Rearranged
import LintReport.Proofs.Report.Acceptance
import LintReport.Proofs.Report.Order
import LintReport.Proofs.Report.Outlet
import LintReport.Proofs.Report.Sink
import LintReport.Proofs.Report.Delivery
import LintReport.Proofs.Report.Envelope
import LintReport.Proofs.Report.Reread
import LintReport.Proofs.Report.Tally
import LintReport.Proofs.Json.Visible
import LintReport.Proofs.Text.Pieces
import LintReport.Proofs.Report.Session
import LintReport.Proofs.Report.Table
import LintReport.Proofs.Report.Lines
import LintReport.Proofs.Inquiry.Answer
import LintReport.Proofs.Settings.Silent
import LintReport.Proofs.Files.Path
import LintReport.Proofs.Settings.Discovery
import LintReport.Proofs.Settings.Packages
import LintReport.Proofs.Command.Run
import LintReport.Proofs.Command.Report
import LintReport.Proofs.Release.Status
import LintReport.Proofs.Release.Grammar
import LintReport.Proofs.Command.Update
import LintReport.Proofs.Command.Remainder
import LintReport.Proofs.Command.Omission
import LintReport.Proofs.Command.Shortened
import LintReport.Proofs.Command.Isolation
import LintReport.Proofs.Command.Project
import LintReport.Proofs.Release.Padding
import LintReport.Proofs.Release.Newer
import LintReport.Proofs.Json.Grammar
import LintReport.Proofs.Json.Spelled
import LintReport.Proofs.Release.Resolution
import LintReport.Proofs.Json.Skipped
import LintReport.Proofs.Json.Valued
import LintReport.Proofs.Report.Positions
import LintReport.Proofs.Report.Integers
import LintReport.Proofs.Release.Manifest
import LintReport.Proofs.Release.Shown
import LintReport.Proofs.Files.Components
import LintReport.Proofs.Files.Tree
import LintReport.Proofs.Settings.Search
import LintReport.Proofs.Toml.Distinct
import LintReport.Proofs.Toml.Datum
import LintReport.Proofs.Settings.Fields
import LintReport.Proofs.Toml.Quoted
import LintReport.Proofs.Settings.Manifest
