import Walkthrough.Batch
import Walkthrough.Batch.Schedule
import Walkthrough.Bridge.Connection
import Walkthrough.Bridge.Operation
import Walkthrough.Bridge.Reply
import Walkthrough.Check.Assertion
import Walkthrough.Check.Expect
import Walkthrough.Command.Errand
import Walkthrough.Command.Options
import Walkthrough.Command.Work
import Walkthrough.Context
import Walkthrough.Document.Case
import Walkthrough.Document.Names
import Walkthrough.Document.Schema
import Walkthrough.Fault.Code
import Walkthrough.Fault.Step
import Walkthrough.Fault.Trouble
import Walkthrough.Handler.Builtin
import Walkthrough.Handler.Registry
import Walkthrough.Handler.SelectWord
import Walkthrough.Handler.Stock
import Walkthrough.Json.Fault
import Walkthrough.Json.Outline
import Walkthrough.Json.Plain
import Walkthrough.Json.Printer
import Walkthrough.Json.Reader
import Walkthrough.Json.Record
import Walkthrough.Json.Value
import Walkthrough.Main
import Walkthrough.Number.Binary64
import Walkthrough.Number.Decimal
import Walkthrough.Page.Memory
import Walkthrough.Page.Scripted
import Walkthrough.Pattern.CharClass
import Walkthrough.Pattern.Escape
import Walkthrough.Pattern.Fault
import Walkthrough.Pattern.Machine
import Walkthrough.Pattern.Match
import Walkthrough.Pattern.Parser
import Walkthrough.Pattern.Property
import Walkthrough.Pattern.Regex
import Walkthrough.Play.Basic
import Walkthrough.Play.Call
import Walkthrough.Play.World
import Walkthrough.Preflight
import Walkthrough.Proofs.Batch.Crashes
import Walkthrough.Proofs.Batch.Lifetime
import Walkthrough.Proofs.Batch.Liveness
import Walkthrough.Proofs.Batch.Progress
import Walkthrough.Proofs.Batch.Reports
import Walkthrough.Proofs.Batch.Shared
import Walkthrough.Proofs.Batch.Turn
import Walkthrough.Proofs.Bridge.Connection
import Walkthrough.Proofs.Bridge.Content
import Walkthrough.Proofs.Bridge.Correlation
import Walkthrough.Proofs.Bridge.Numbering
import Walkthrough.Proofs.Bridge.Request
import Walkthrough.Proofs.Check.Flaws
import Walkthrough.Proofs.Check.Glance
import Walkthrough.Proofs.Check.Misconfigured
import Walkthrough.Proofs.Check.Polling
import Walkthrough.Proofs.Check.Reading
import Walkthrough.Proofs.Check.Requests
import Walkthrough.Proofs.Check.SameWords
import Walkthrough.Proofs.Document.Accepted
import Walkthrough.Proofs.Document.Problems
import Walkthrough.Proofs.Document.RoundTrip
import Walkthrough.Proofs.Document.Stepwise
import Walkthrough.Proofs.Document.UploadFile
import Walkthrough.Proofs.Fault.InTurn
import Walkthrough.Proofs.Fault.Label
import Walkthrough.Proofs.Handler.Builtin
import Walkthrough.Proofs.Handler.SelectWord
import Walkthrough.Proofs.Json.Fields
import Walkthrough.Proofs.Json.InOrder
import Walkthrough.Proofs.Json.Layout
import Walkthrough.Proofs.Json.Leaves
import Walkthrough.Proofs.Json.Members
import Walkthrough.Proofs.Json.Numeral
import Walkthrough.Proofs.Json.Plain
import Walkthrough.Proofs.Json.Record
import Walkthrough.Proofs.Json.Recovery
import Walkthrough.Proofs.Json.SingleLine
import Walkthrough.Proofs.Json.Written
import Walkthrough.Proofs.Number.Fraction
import Walkthrough.Proofs.Number.Nearest
import Walkthrough.Proofs.Number.Shortest
import Walkthrough.Proofs.Number.Whole
import Walkthrough.Proofs.Page.Change
import Walkthrough.Proofs.Page.Failure
import Walkthrough.Proofs.Page.Removal
import Walkthrough.Proofs.Play.Agreement
import Walkthrough.Proofs.Play.Alike
import Walkthrough.Proofs.Play.Deadline
import Walkthrough.Proofs.Play.Ensures
import Walkthrough.Proofs.Play.Faults
import Walkthrough.Proofs.Play.Identifiers
import Walkthrough.Proofs.Play.Later
import Walkthrough.Proofs.Play.Laws
import Walkthrough.Proofs.Play.Series
import Walkthrough.Proofs.Play.Transcript
import Walkthrough.Proofs.Report.Calendar
import Walkthrough.Proofs.Report.Legible
import Walkthrough.Proofs.Report.RoundTrip
import Walkthrough.Proofs.Report.RunId
import Walkthrough.Proofs.Report.Timestamp
import Walkthrough.Proofs.Run.Alarms
import Walkthrough.Proofs.Run.Arrival
import Walkthrough.Proofs.Run.Configuration
import Walkthrough.Proofs.Run.Consistency
import Walkthrough.Proofs.Run.Custody
import Walkthrough.Proofs.Run.EachOnce
import Walkthrough.Proofs.Run.Failures
import Walkthrough.Proofs.Run.FanOut
import Walkthrough.Proofs.Run.Hardened
import Walkthrough.Proofs.Run.Heeding
import Walkthrough.Proofs.Run.Invocations
import Walkthrough.Proofs.Run.Parametric
import Walkthrough.Proofs.Run.Performance
import Walkthrough.Proofs.Run.Preflight
import Walkthrough.Proofs.Run.Reordering
import Walkthrough.Proofs.Run.Requests
import Walkthrough.Proofs.Run.Sequence
import Walkthrough.Proofs.Run.SingleCall
import Walkthrough.Proofs.Run.Softness
import Walkthrough.Proofs.Run.Strictness
import Walkthrough.Proofs.Run.Sweep
import Walkthrough.Proofs.Run.Tamed
import Walkthrough.Proofs.Run.TimeLimit
import Walkthrough.Proofs.Run.Timeless
import Walkthrough.Proofs.Run.Units
import Walkthrough.Proofs.Run.Upload
import Walkthrough.Proofs.Scenario.Application
import Walkthrough.Proofs.Scenario.Cut
import Walkthrough.Proofs.Scenario.Expansion
import Walkthrough.Proofs.Scenario.Loading
import Walkthrough.Proofs.Scenario.Order
import Walkthrough.Proofs.Settings.Independence
import Walkthrough.Proofs.Settings.Sampling
import Walkthrough.Proofs.Settings.Spelling
import Walkthrough.Proofs.Target.Narrowing
import Walkthrough.Proofs.Text.Ascii
import Walkthrough.Proofs.Text.Base64
import Walkthrough.Proofs.Text.Base64Text
import Walkthrough.Proofs.Text.Trim
import Walkthrough.Proofs.Text.Words
import Walkthrough.Report.Basic
import Walkthrough.Report.RunId
import Walkthrough.Report.Schema
import Walkthrough.Report.Timestamp
import Walkthrough.Run.Action
import Walkthrough.Run.Evaluate
import Walkthrough.Run.Report
import Walkthrough.Scenario.FileTree
import Walkthrough.Scenario.Load
import Walkthrough.Scenario.Placeholder
import Walkthrough.Settings.Browser
import Walkthrough.Settings.Duration
import Walkthrough.Settings.Environment
import Walkthrough.Settings.Run
import Walkthrough.Settings.Telemetry
import Walkthrough.Target
import Walkthrough.Text.Base64
import Walkthrough.Text.Blank
import Walkthrough.Text.Quoted
import Walkthrough.Unicode.AgeTable
import Walkthrough.Unicode.ByteRanges
import Walkthrough.Unicode.Category
import Walkthrough.Unicode.CategoryTable
import Walkthrough.Unicode.CodeSet
import Walkthrough.Unicode.FoldTable
import Walkthrough.Unicode.Folding
import Walkthrough.Unicode.Property
import Walkthrough.Unicode.PropertyTable
import Walkthrough.Unicode.ScriptExtensionTable
import Walkthrough.Unicode.ScriptTable
import Walkthrough.Unicode.Segmentation
import Walkthrough.Upload
