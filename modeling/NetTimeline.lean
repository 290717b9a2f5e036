import NetTimeline.Axis.Basic
import NetTimeline.Axis.Document
import NetTimeline.Axis.Scale
import NetTimeline.Axis.Step
import NetTimeline.Axis.Table
import NetTimeline.Calendar.Absolute
import NetTimeline.Calendar.Clock
import NetTimeline.Calendar.Date
import NetTimeline.Calendar.Expression
import NetTimeline.Calendar.Moment
import NetTimeline.Calendar.Piece
import NetTimeline.Calendar.Relative
import NetTimeline.Calendar.Zone
import NetTimeline.Command.Arguments
import NetTimeline.Command.Help
import NetTimeline.Command.Parameter
import NetTimeline.Command.Run
import NetTimeline.Command.Settings
import NetTimeline.Event.Basic
import NetTimeline.Event.Field
import NetTimeline.Event.Numeral
import NetTimeline.Event.Span
import NetTimeline.Event.Window
import NetTimeline.Files.Path
import NetTimeline.Files.System
import NetTimeline.Files.Tree
import NetTimeline.Json.Reader
import NetTimeline.Json.Value
import NetTimeline.Json.Writer
import NetTimeline.Log.Line
import NetTimeline.Log.Load
import NetTimeline.Log.Record
import NetTimeline.Main
import NetTimeline.Number.Basic
import NetTimeline.Number.Binary64
import NetTimeline.Number.Decimal
import NetTimeline.Number.Layout
import NetTimeline.Number.Rounding
import NetTimeline.Number.Shortest
import NetTimeline.Recorder.Await
import NetTimeline.Recorder.Memory
import NetTimeline.Recorder.Threads
import NetTimeline.Recorder.Wait
import NetTimeline.Text.Digit
import NetTimeline.Text.Excerpt
import NetTimeline.Text.Likeness
import NetTimeline.Text.Lines
import NetTimeline.Text.Part
import NetTimeline.Text.Printable
import NetTimeline.Text.Quoted
import NetTimeline.Text.Space
import NetTimeline.Text.Utf8
import NetTimeline.Timeline
import NetTimeline.Proofs.Result
import NetTimeline.Proofs.Number.Rounding
import NetTimeline.Proofs.Number.Units
import NetTimeline.Proofs.Axis.NiceStep
import NetTimeline.Proofs.Axis.Chosen
import NetTimeline.Proofs.Axis.Ticks
import NetTimeline.Proofs.Axis.Drawn
import NetTimeline.Proofs.Axis.Divide
import NetTimeline.Proofs.Axis.PastZero
import NetTimeline.Proofs.Axis.Existence
import NetTimeline.Proofs.Axis.Refusal
import NetTimeline.Proofs.Log.Lines
import NetTimeline.Proofs.Event.Order
import NetTimeline.Proofs.Axis.Agreement
import NetTimeline.Proofs.Storage
import NetTimeline.Proofs.Event.Extent
import NetTimeline.Proofs.Number.Decimal
import NetTimeline.Proofs.Json.Number
import NetTimeline.Proofs.Json.RoundTrip
import NetTimeline.Proofs.Axis.Document
import NetTimeline.Proofs.Recorder.History
import NetTimeline.Proofs.Command.Mishap
import NetTimeline.Proofs.Command.Outcome
import NetTimeline.Proofs.Command.Printed
import NetTimeline.Proofs.Axis.Monotone
import NetTimeline.Proofs.Axis.Label
import NetTimeline.Proofs.Recorder.Monitor
import NetTimeline.Proofs.Recorder.Request
import NetTimeline.Proofs.Recorder.Contract
import NetTimeline.Proofs.Axis.Distinct
import NetTimeline.Proofs.Axis.Whole
import NetTimeline.Proofs.Event.Growth
import NetTimeline.Proofs.Files.Addition
import NetTimeline.Proofs.Log.Addition
import NetTimeline.Proofs.Calendar.Order
import NetTimeline.Proofs.Event.Start
import NetTimeline.Proofs.Event.Window
import NetTimeline.Proofs.Event.Interval
import NetTimeline.Proofs.Calendar.DayExpression
import NetTimeline.Proofs.Event.Day
import NetTimeline.Proofs.Axis.Neighbours
import NetTimeline.Proofs.Axis.Blocks
import NetTimeline.Proofs.Event.Spelling
import NetTimeline.Proofs.Text.Words
import NetTimeline.Proofs.Number.SixDigits
import NetTimeline.Proofs.Axis.Table
import NetTimeline.Proofs.Command.Table
import NetTimeline.Proofs.Calendar.Succession
import NetTimeline.Proofs.Calendar.DateTime
import NetTimeline.Proofs.Event.Millisecond
