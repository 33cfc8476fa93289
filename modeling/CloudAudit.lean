import CloudAudit.Assessment.Basic
import CloudAudit.Assessment.Control
import CloudAudit.Assessment.Pool
import CloudAudit.Assessment.Requirement
import CloudAudit.Assessment.Run
import CloudAudit.Checklist.Basic
import CloudAudit.Checklist.Entry
import CloudAudit.Checklist.Listing
import CloudAudit.CommandLine.Command
import CloudAudit.CommandLine.Grammar
import CloudAudit.CommandLine.Reading
import CloudAudit.Configuration
import CloudAudit.Control.Basic
import CloudAudit.Control.Check
import CloudAudit.Control.Equality
import CloudAudit.Control.Evaluation
import CloudAudit.Control.Record
import CloudAudit.Digest.Blake3
import CloudAudit.Engine.Settings
import CloudAudit.Environment.Binding
import CloudAudit.Environment.File
import CloudAudit.Environment.LogFilter
import CloudAudit.Environment.LogLevel
import CloudAudit.Environment.Statement
import CloudAudit.Files.Path
import CloudAudit.Files.Tree
import CloudAudit.Host.Basic
import CloudAudit.Host.World
import CloudAudit.Inventory.Azure
import CloudAudit.Inventory.Delayed
import CloudAudit.Inventory.Failure
import CloudAudit.Inventory.Limit
import CloudAudit.Inventory.Listing
import CloudAudit.Inventory.Source
import CloudAudit.Inventory.Store
import CloudAudit.Json.Basic
import CloudAudit.Json.Printer
import CloudAudit.Json.Reader
import CloudAudit.Json.Record
import CloudAudit.Main
import CloudAudit.Number.Binary64
import CloudAudit.Number.Decimal
import CloudAudit.Number.Natural
import CloudAudit.Number.Shortest
import CloudAudit.Program.Commands
import CloudAudit.Program.Failure
import CloudAudit.Program.Setup
import CloudAudit.Proofs.Assessment.Answers
import CloudAudit.Proofs.Assessment.Requirement
import CloudAudit.Proofs.Assessment.Trace
import CloudAudit.Proofs.Assessment.Verdict
import CloudAudit.Proofs.Checklist.Index
import CloudAudit.Proofs.Checklist.Listing
import CloudAudit.Proofs.Checklist.Loading
import CloudAudit.Proofs.Checklist.Satisfiable
import CloudAudit.Proofs.Checklist.Shape
import CloudAudit.Proofs.Checklist.Summary
import CloudAudit.Proofs.Configuration.Overrides
import CloudAudit.Proofs.Control.Equality
import CloudAudit.Proofs.Control.Evidence
import CloudAudit.Proofs.Control.Integers
import CloudAudit.Proofs.Control.Ordering
import CloudAudit.Proofs.Control.Satisfiable
import CloudAudit.Proofs.Distinct
import CloudAudit.Proofs.Except
import CloudAudit.Proofs.Files.Writing
import CloudAudit.Proofs.Infix
import CloudAudit.Proofs.Inventory.Azure
import CloudAudit.Proofs.Inventory.History
import CloudAudit.Proofs.Json.Record
import CloudAudit.Proofs.Number.Digits
import CloudAudit.Proofs.Number.Numeral
import CloudAudit.Proofs.Number.Quotient
import CloudAudit.Proofs.Number.Rounding
import CloudAudit.Proofs.Number.Unsigned
import CloudAudit.Proofs.Program.Layers
import CloudAudit.Proofs.Program.Reading
import CloudAudit.Proofs.Program.Writing
import CloudAudit.Proofs.Remediation.Actions
import CloudAudit.Proofs.Remediation.AllClear
import CloudAudit.Proofs.Remediation.Attribution
import CloudAudit.Proofs.Remediation.PlanText
import CloudAudit.Proofs.Report.Bookkeeping
import CloudAudit.Proofs.Report.ControlText
import CloudAudit.Proofs.Report.Headings
import CloudAudit.Proofs.Report.Markdown
import CloudAudit.Proofs.Report.Rates
import CloudAudit.Proofs.Report.RoundTrip
import CloudAudit.Proofs.Resource.Positions
import CloudAudit.Proofs.Run.Agreement
import CloudAudit.Proofs.Run.Endings
import CloudAudit.Proofs.Run.Fixed
import CloudAudit.Proofs.Run.Isolation
import CloudAudit.Proofs.Run.Parallel
import CloudAudit.Proofs.Run.Pool
import CloudAudit.Proofs.Run.Reordering
import CloudAudit.Proofs.Run.Results
import CloudAudit.Proofs.Run.Settled
import CloudAudit.Proofs.Run.Single
import CloudAudit.Proofs.Run.Staffing
import CloudAudit.Proofs.Run.Strictness
import CloudAudit.Proofs.Run.Timeouts
import CloudAudit.Proofs.Template.Cutting
import CloudAudit.Proofs.Template.Rendering
import CloudAudit.Proofs.Template.Standard
import CloudAudit.Proofs.Timestamp
import CloudAudit.Proofs.Utf8
import CloudAudit.Proofs.Yaml.Layout
import CloudAudit.Proofs.Yaml.Members
import CloudAudit.Report.Basic
import CloudAudit.Report.Format
import CloudAudit.Report.Record
import CloudAudit.Report.Remediation
import CloudAudit.Report.Standard
import CloudAudit.Report.Text
import CloudAudit.Report.Totals
import CloudAudit.Report.View
import CloudAudit.Resource.Path
import CloudAudit.Template.Basic
import CloudAudit.Template.File
import CloudAudit.Template.Layout
import CloudAudit.Template.Piece
import CloudAudit.Template.Reader
import CloudAudit.Template.Render
import CloudAudit.Template.Scope
import CloudAudit.Template.Tag
import CloudAudit.Template.Word
import CloudAudit.Text.Blank
import CloudAudit.Text.Hidden
import CloudAudit.Text.Letter
import CloudAudit.Text.Quoted
import CloudAudit.Text.Ranges
import CloudAudit.Text.Segments
import CloudAudit.Text.Utf8
import CloudAudit.Timestamp
import CloudAudit.Yaml.Block
import CloudAudit.Yaml.Character
import CloudAudit.Yaml.Folding
import CloudAudit.Yaml.Node
import CloudAudit.Yaml.Plain
import CloudAudit.Yaml.Quoted
import CloudAudit.Yaml.Record
import CloudAudit.Yaml.Scalar
import CloudAudit.Yaml.Shape
import CloudAudit.Yaml.Token
import CloudAudit.Yaml.Tree
import CloudAudit.Yaml.Value
