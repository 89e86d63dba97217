import UiTree.Command.Options
import UiTree.Command.Run
import UiTree.Command.Usage
import UiTree.Datum
import UiTree.Element.Basic
import UiTree.Element.Decode
import UiTree.Element.Drawing
import UiTree.Element.Dump
import UiTree.Element.Outage
import UiTree.Element.Ragged
import UiTree.Element.Walk
import UiTree.Failure
import UiTree.Journal.Basic
import UiTree.Journal.Record
import UiTree.Journal.Template
import UiTree.Json.Reader
import UiTree.Json.Value
import UiTree.Json.Writer
import UiTree.KeyChord
import UiTree.Main
import UiTree.Number.Binary64
import UiTree.Number.Decimal
import UiTree.Number.Notation
import UiTree.Number.Whole
import UiTree.Page.Dispatcher
import UiTree.Page.Expectation
import UiTree.Page.Locator
import UiTree.Page.Session
import UiTree.Proofs.Command.Agreement
import UiTree.Proofs.Command.Display
import UiTree.Proofs.Command.Refusal
import UiTree.Proofs.Command.Running
import UiTree.Proofs.Command.StandIn
import UiTree.Proofs.Element.Change
import UiTree.Proofs.Element.DocumentOrder
import UiTree.Proofs.Element.Drawing
import UiTree.Proofs.Element.Insertion
import UiTree.Proofs.Element.Precedence
import UiTree.Proofs.Element.Ragged
import UiTree.Proofs.Element.Rendering
import UiTree.Proofs.Element.Spelling
import UiTree.Proofs.Element.Traversal
import UiTree.Proofs.Journal.Attached
import UiTree.Proofs.Journal.Context
import UiTree.Proofs.Journal.Record
import UiTree.Proofs.Journal.Scoping
import UiTree.Proofs.Journal.Timing
import UiTree.Proofs.Json.Members
import UiTree.Proofs.Json.Reading
import UiTree.Proofs.Json.Text
import UiTree.Proofs.KeyChord.Character
import UiTree.Proofs.KeyChord.Reading
import UiTree.Proofs.KeyChord.Spelling
import UiTree.Proofs.Page.Calls
import UiTree.Proofs.Page.Containing
import UiTree.Proofs.Page.Disabled
import UiTree.Proofs.Page.Dispatcher
import UiTree.Proofs.Page.Effect
import UiTree.Proofs.Page.Expectation
import UiTree.Proofs.Page.Glance
import UiTree.Proofs.Page.History
import UiTree.Proofs.Page.Keeping
import UiTree.Proofs.Page.Look
import UiTree.Proofs.Page.Observing
import UiTree.Proofs.Page.Perform
import UiTree.Proofs.Page.Rejection
import UiTree.Proofs.Page.Replay
import UiTree.Proofs.Page.Reporting
import UiTree.Proofs.Page.Resolution
import UiTree.Proofs.Page.Search
import UiTree.Proofs.Page.SingleShot
import UiTree.Proofs.Page.Stability
import UiTree.Proofs.Page.Static
import UiTree.Proofs.Page.ValueFilter
import UiTree.Proofs.Page.Waiting
import UiTree.Proofs.Page.Weakening
import UiTree.Proofs.Selector.Chain
import UiTree.Proofs.Selector.Composition
import UiTree.Proofs.Selector.Embedding
import UiTree.Proofs.Selector.FirstMatch
import UiTree.Proofs.Selector.Grammar
import UiTree.Proofs.Selector.Growth
import UiTree.Proofs.Selector.Offence
import UiTree.Proofs.Selector.Position
import UiTree.Proofs.Selector.Reading
import UiTree.Proofs.Selector.Relaxation
import UiTree.Proofs.Selector.RoleWord
import UiTree.Proofs.Selector.Written
import UiTree.Proofs.Snapshot.Json
import UiTree.Proofs.Text.Appearance
import UiTree.Proofs.Text.Casing
import UiTree.Proofs.Text.Classes
import UiTree.Proofs.Text.Markup
import UiTree.Proofs.Text.Shift
import UiTree.Proofs.Text.Width
import UiTree.Proofs.Wait.Breadcrumbs
import UiTree.Proofs.Wait.Budget
import UiTree.Proofs.Wait.Concurrent
import UiTree.Proofs.Wait.Course
import UiTree.Proofs.Wait.Polling
import UiTree.Proofs.Wait.Turns
import UiTree.Proofs.Yaml.Conversion
import UiTree.Proofs.Yaml.Foreseen
import UiTree.Selector.Basic
import UiTree.Selector.Decode
import UiTree.Selector.Dump
import UiTree.Selector.Match
import UiTree.Selector.Reader
import UiTree.Selector.Refusal
import UiTree.Selector.Role
import UiTree.Selector.Search
import UiTree.Settings.Basic
import UiTree.Settings.Dotenv
import UiTree.Settings.Load
import UiTree.Snapshot
import UiTree.Snapshot.Load
import UiTree.Storage.Folder
import UiTree.Storage.Location
import UiTree.Text.Blank
import UiTree.Text.Case
import UiTree.Text.Letter
import UiTree.Text.Markup
import UiTree.Text.Pictograph
import UiTree.Text.Printable
import UiTree.Text.Quoted
import UiTree.Text.Ragged
import UiTree.Text.Runs
import UiTree.Text.Search
import UiTree.Text.Similar
import UiTree.Text.Table.Case
import UiTree.Text.Table.Letter
import UiTree.Text.Table.Pictograph
import UiTree.Text.Table.Printable
import UiTree.Text.Table.Width
import UiTree.Text.Utf8
import UiTree.Text.Width
import UiTree.Timing
import UiTree.Validation.Fault
import UiTree.Validation.Issue
import UiTree.Validation.Rules
import UiTree.Wait.Basic
import UiTree.Wait.Concurrent
import UiTree.Wait.Polling
import UiTree.Yaml.Class
import UiTree.Yaml.Document
import UiTree.Yaml.Fault
import UiTree.Yaml.Kind
import UiTree.Yaml.Node
import UiTree.Yaml.Octets
import UiTree.Yaml.Scalar
import UiTree.Yaml.Tag
import UiTree.Yaml.Timestamp
import UiTree.Yaml.Token
