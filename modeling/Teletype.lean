import Teletype.Action.Basic
import Teletype.Action.Json
import Teletype.Action.Run
import Teletype.Action.Toggle
import Teletype.Command.Dispatch
import Teletype.Command.Match
import Teletype.Condition.Basic
import Teletype.Condition.Json
import Teletype.Content.Basic
import Teletype.Content.Json
import Teletype.Decimal.Double
import Teletype.Decimal.Layout
import Teletype.Decimal.Numeral
import Teletype.Decimal.Scaled
import Teletype.Decimal.Shortest
import Teletype.Document.Basic
import Teletype.Document.Json
import Teletype.Document.Links
import Teletype.Json.Basic
import Teletype.Json.Reader
import Teletype.Json.Record
import Teletype.Json.Writer
import Teletype.Layout.Frame
import Teletype.Layout.Placeholder
import Teletype.Layout.Render
import Teletype.Layout.Wrap
import Teletype.Lint.Check
import Teletype.Lint.Tool
import Teletype.Main
import Teletype.Markup.Escape
import Teletype.Markup.Plain
import Teletype.Markup.Segment
import Teletype.Markup.Slice
import Teletype.Random.Cipher
import Teletype.Random.Source
import Teletype.Regex.Basic
import Teletype.Regex.Boundary
import Teletype.Regex.Category
import Teletype.Regex.CharSet
import Teletype.Regex.Class
import Teletype.Regex.Escape
import Teletype.Regex.Flags
import Teletype.Regex.Group
import Teletype.Regex.Named
import Teletype.Regex.Property
import Teletype.Regex.Reader
import Teletype.Reveal.Run
import Teletype.Reveal.Time
import Teletype.Ron.Basic
import Teletype.Ron.Reader
import Teletype.Ron.Token
import Teletype.Ron.Writer
import Teletype.Rule
import Teletype.Session.Basic
import Teletype.Session.Layout
import Teletype.Session.Play
import Teletype.Session.Settings
import Teletype.Session.Setup
import Teletype.Session.View
import Teletype.Session.Wire
import Teletype.Shell.Answer
import Teletype.Shell.Arguments
import Teletype.Shell.Display
import Teletype.Shell.Tool
import Teletype.Store.Basic
import Teletype.Store.Save
import Teletype.Store.Watch
import Teletype.Story.Airlock
import Teletype.Text.Blank
import Teletype.Text.Case
import Teletype.Text.CaseShift
import Teletype.Text.Category
import Teletype.Text.Edition
import Teletype.Text.Property
import Teletype.Text.Script
import Teletype.Text.Span
import Teletype.Text.Split
import Teletype.Value.Basic
import Teletype.Value.Json
import Teletype.Proofs.Reveal.Invariant
import Teletype.Proofs.Document.Tables
import Teletype.Proofs.Keeps
import Teletype.Proofs.Rule.Fault
import Teletype.Proofs.Lint.Sound
import Teletype.Proofs.Session.Call
import Teletype.Proofs.Action.Sound
import Teletype.Proofs.Session.Advance
import Teletype.Proofs.Command.Choice
import Teletype.Proofs.Session.Sound
import Teletype.Proofs.Session.Vault
import Teletype.Proofs.Session.Flawless
import Teletype.Proofs.Session.Failure
import Teletype.Proofs.Reveal.Outcome
import Teletype.Proofs.Session.Schedule
import Teletype.Proofs.Action.Trace
import Teletype.Proofs.Action.Strip
import Teletype.Proofs.Session.Stage
import Teletype.Proofs.Session.Signal
import Teletype.Proofs.Session.Chain
import Teletype.Proofs.Session.Shown
import Teletype.Proofs.Reveal.Report
import Teletype.Proofs.Session.Report
import Teletype.Proofs.Session.Account
import Teletype.Proofs.Markup.Escapes
import Teletype.Proofs.Markup.Safe
import Teletype.Proofs.Markup.Plain
import Teletype.Proofs.Action.Links
import Teletype.Proofs.Document.Reach
import Teletype.Proofs.Session.Resume
import Teletype.Proofs.Session.Within
import Teletype.Proofs.Session.Coherent
import Teletype.Proofs.Session.Unreachable
import Teletype.Proofs.Store.ChangeLog
import Teletype.Proofs.Store.Table
import Teletype.Proofs.Json.Scalars
import Teletype.Proofs.Store.JsonSave
import Teletype.Proofs.Action.Lasting
import Teletype.Proofs.Session.Lasting
import Teletype.Proofs.Lint.Unset
import Teletype.Proofs.Session.KnownNames
import Teletype.Proofs.Session.Once
import Teletype.Proofs.Command.History
import Teletype.Proofs.Json.Reread
import Teletype.Proofs.Condition.Reread
import Teletype.Proofs.Action.Reread
import Teletype.Proofs.Content.Reread
import Teletype.Proofs.Text.Lines
import Teletype.Proofs.Layout.Width
import Teletype.Proofs.Markup.Width
import Teletype.Proofs.Regex.Spans
import Teletype.Proofs.Regex.Framed
import Teletype.Proofs.Regex.FramedEscape
import Teletype.Proofs.Regex.FramedClass
import Teletype.Proofs.Regex.FramedGroup
import Teletype.Proofs.Regex.FramedBody
import Teletype.Proofs.Regex.Alone
import Teletype.Proofs.Regex.Plain
import Teletype.Proofs.Regex.CaseClass
import Teletype.Proofs.Regex.CaseBody
import Teletype.Proofs.Command.Whole
import Teletype.Proofs.Layout.Wrap
import Teletype.Proofs.Reveal.Chronicle
import Teletype.Proofs.Layout.Missing
import Teletype.Proofs.Lint.Placeholder
import Teletype.Proofs.Session.Laid
import Teletype.Proofs.Layout.Framed
import Teletype.Proofs.Text.Trim
import Teletype.Proofs.Markup.Segments
import Teletype.Proofs.Layout.Pieces
import Teletype.Proofs.Layout.Interpolate
import Teletype.Proofs.Markup.Mask
import Teletype.Proofs.Reveal.Pace
import Teletype.Proofs.Reveal.Ahead
import Teletype.Proofs.Session.Frame
import Teletype.Proofs.Document.Delays
import Teletype.Proofs.Session.Ending
import Teletype.Proofs.Ron.Scalars
import Teletype.Proofs.Store.RonSave
import Teletype.Proofs.Condition.Dependence
import Teletype.Proofs.Decimal.Grammar
import Teletype.Proofs.Rule.Template
import Teletype.Proofs.Lint.Trial
import Teletype.Proofs.Value.Numeric
import Teletype.Proofs.Document.ItemIds
import Teletype.Proofs.Action.Flips
import Teletype.Proofs.Session.Flips
import Teletype.Proofs.Decimal.Whole
import Teletype.Proofs.Rule.Range
import Teletype.Proofs.Reveal.Clock
