import EventHub.Actions.Deliver
import EventHub.Actions.Desk
import EventHub.Actions.Nesting
import EventHub.Actions.Run
import EventHub.Actions.Stock
import EventHub.Actions.Transform
import EventHub.Actions.Web
import EventHub.Arguments
import EventHub.Assoc
import EventHub.Bus.Dispatch
import EventHub.Bus.History
import EventHub.Bus.Subscription
import EventHub.Bus.Topic
import EventHub.Cache
import EventHub.Condition
import EventHub.Discovery.Synthesis
import EventHub.Fault
import EventHub.Fault.Kind
import EventHub.Fault.Report
import EventHub.Flows.Book
import EventHub.Flows.Desk
import EventHub.Flows.Lifecycle
import EventHub.Flows.Listen
import EventHub.Flows.Runner
import EventHub.Hub.Assembly
import EventHub.Hub.Context
import EventHub.Hub.Effect
import EventHub.Hub.Guard
import EventHub.Hub.Log
import EventHub.Hub.Receive
import EventHub.Hub.State
import EventHub.Hub.Store
import EventHub.Hub.Validate
import EventHub.Json.Encode
import EventHub.Json.Read
import EventHub.Json.Write
import EventHub.Link.Client
import EventHub.Link.Message
import EventHub.Mail.AddrSpec
import EventHub.Mail.Address
import EventHub.Mail.Charset
import EventHub.Mail.CodePage
import EventHub.Mail.EncodedWord
import EventHub.Mail.Glyph
import EventHub.Mail.Header
import EventHub.Mail.Phrase
import EventHub.Mail.Token
import EventHub.Main
import EventHub.Number.Binary64
import EventHub.Number.Shortest
import EventHub.Number.Text
import EventHub.Pattern.Basic
import EventHub.Pattern.CharacterName
import EventHub.Pattern.Charset
import EventHub.Pattern.Matcher
import EventHub.Pattern.Reader
import EventHub.Proofs.Actions.Nest
import EventHub.Proofs.Actions.Shared
import EventHub.Proofs.Actions.Written
import EventHub.Proofs.Assoc
import EventHub.Proofs.Bus.Account
import EventHub.Proofs.Bus.Blind
import EventHub.Proofs.Bus.Calls
import EventHub.Proofs.Bus.Chronicle
import EventHub.Proofs.Bus.Clearing
import EventHub.Proofs.Bus.Queue
import EventHub.Proofs.Bus.Routing
import EventHub.Proofs.Bus.Standing
import EventHub.Proofs.Bus.Telling
import EventHub.Proofs.Cache
import EventHub.Proofs.Condition.Comparison
import EventHub.Proofs.Condition.Predicate
import EventHub.Proofs.Context
import EventHub.Proofs.Context.Names
import EventHub.Proofs.Discovery.Announce
import EventHub.Proofs.Discovery.AutoRule
import EventHub.Proofs.Discovery.Dispatch
import EventHub.Proofs.Discovery.Generic
import EventHub.Proofs.Discovery.Listen
import EventHub.Proofs.Discovery.NewFields
import EventHub.Proofs.Discovery.Observe
import EventHub.Proofs.Discovery.Recorder
import EventHub.Proofs.Discovery.Recording
import EventHub.Proofs.Discovery.Relay
import EventHub.Proofs.Discovery.Republish
import EventHub.Proofs.Discovery.Run
import EventHub.Proofs.Discovery.Spare
import EventHub.Proofs.Discovery.Track
import EventHub.Proofs.Discovery.Verbatim
import EventHub.Proofs.Flows.Attempts
import EventHub.Proofs.Flows.Gauge
import EventHub.Proofs.Flows.RuleStep
import EventHub.Proofs.Flows.Tally
import EventHub.Proofs.Flows.Updates
import EventHub.Proofs.Flows.Watch
import EventHub.Proofs.Flows.WellFormed
import EventHub.Proofs.Frame
import EventHub.Proofs.Frame.Actions
import EventHub.Proofs.Frame.Flows
import EventHub.Proofs.Frame.Receive
import EventHub.Proofs.Frame.Rules
import EventHub.Proofs.Hub.Configuration
import EventHub.Proofs.Hub.Refusal
import EventHub.Proofs.Hub.Registration
import EventHub.Proofs.Hub.Registries
import EventHub.Proofs.Hub.Restart
import EventHub.Proofs.Hub.Rollback
import EventHub.Proofs.Hub.Run
import EventHub.Proofs.Hub.Start
import EventHub.Proofs.Hub.Steady
import EventHub.Proofs.Hub.Updates
import EventHub.Proofs.Link.Renewal
import EventHub.Proofs.Number.Digits
import EventHub.Proofs.Record.Flow
import EventHub.Proofs.Record.FlowForms
import EventHub.Proofs.Record.Forms
import EventHub.Proofs.Record.RoundTrip
import EventHub.Proofs.Record.Rule
import EventHub.Proofs.Record.RuleForms
import EventHub.Proofs.Record.Times
import EventHub.Proofs.Record.Updates
import EventHub.Proofs.Rules.ByType
import EventHub.Proofs.Rules.DayWindow
import EventHub.Proofs.Rules.Daybook
import EventHub.Proofs.Rules.Edits
import EventHub.Proofs.Rules.Execution
import EventHub.Proofs.Rules.Index
import EventHub.Proofs.Rules.Judgement
import EventHub.Proofs.Rules.Portable
import EventHub.Proofs.Rules.Registry
import EventHub.Proofs.Rules.Reload
import EventHub.Proofs.Rules.Selection
import EventHub.Proofs.Rules.Updates
import EventHub.Proofs.Template
import EventHub.Proofs.Template.Missing
import EventHub.Proofs.Template.Pieces
import EventHub.Proofs.Time.Calendar
import EventHub.Proofs.Time.RoundTrip
import EventHub.Proofs.Value.Json
import EventHub.Proofs.Value.Lookup
import EventHub.Proofs.Value.Order
import EventHub.Record.Any
import EventHub.Record.Check
import EventHub.Record.Event
import EventHub.Record.Flow
import EventHub.Record.Issue
import EventHub.Record.Predicate
import EventHub.Record.Rule
import EventHub.Rehearsal.Bench
import EventHub.Rehearsal.Functions
import EventHub.Rehearsal.Loose
import EventHub.Rehearsal.Tagged
import EventHub.Rehearsal.World
import EventHub.Rules.Book
import EventHub.Rules.Engine
import EventHub.Rules.Match
import EventHub.Rules.Outcome
import EventHub.Schema
import EventHub.Settings.Basic
import EventHub.Settings.Fields
import EventHub.Settings.Load
import EventHub.Sort.Gallop
import EventHub.Sort.Merge
import EventHub.Sort.Runs
import EventHub.Startup.Program
import EventHub.Template
import EventHub.Text.Blank
import EventHub.Text.Digit
import EventHub.Text.LetterCase
import EventHub.Text.Lines
import EventHub.Text.Quoted
import EventHub.Text.Ranges
import EventHub.Text.SnakeCase
import EventHub.Text.Utf8
import EventHub.Text.Visible
import EventHub.Text.Word
import EventHub.Time.Calendar
import EventHub.Time.DayWindow
import EventHub.Time.Moment
import EventHub.Time.Span
import EventHub.Value.Basic
import EventHub.Value.Coerce
import EventHub.Value.Compare
import EventHub.Value.Depth
import EventHub.Value.InputPart
import EventHub.Value.Key
import EventHub.Value.Path
import EventHub.Value.Show
import EventHub.Value.Table
import EventHub.Proofs.Cache.Purging
import EventHub.Proofs.Actions.Fanout
import EventHub.Proofs.Actions.Deliveries
import EventHub.Proofs.Actions.ShortMessages
import EventHub.Proofs.Json.Atoms
import EventHub.Proofs.Json.RoundTrip
import EventHub.Proofs.Link.Messages
import EventHub.Proofs.Settings.Precedence
import EventHub.Proofs.Startup.Replay
