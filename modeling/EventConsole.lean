import EventConsole.Binary64.Basic
import EventConsole.Binary64.Shortest
import EventConsole.Client.Headers
import EventConsole.Client.Failure
import EventConsole.Client.Session
import EventConsole.CommandLine.Arguments
import EventConsole.CommandLine.Dialogue
import EventConsole.CommandLine.Run
import EventConsole.Console.Basic
import EventConsole.Console.Input
import EventConsole.Console.Run
import EventConsole.Console.Screen
import EventConsole.Console.Tasks
import EventConsole.Dashboard.ChartSlot
import EventConsole.Dashboard.Refresh
import EventConsole.Dashboard.View
import EventConsole.EventBrowser.Basic
import EventConsole.Demo.Server
import EventConsole.Demo.Config
import EventConsole.Demo.Sample
import EventConsole.Demo.Stats
import EventConsole.Demo.Store
import EventConsole.Event
import EventConsole.EventBrowser.Input
import EventConsole.EventBrowser.Loading
import EventConsole.EventBrowser.Table
import EventConsole.EventFilter
import EventConsole.Highlight
import EventConsole.Input
import EventConsole.Json.Decode
import EventConsole.Json.Printer
import EventConsole.Json.Reader
import EventConsole.Json.Token
import EventConsole.Json.Value
import EventConsole.LogFilter.Basic
import EventConsole.LogFilter.Pattern
import EventConsole.LoginForm
import EventConsole.Main
import EventConsole.Natural
import EventConsole.Profiles
import EventConsole.Random.Block
import EventConsole.Random.Source
import EventConsole.Route
import EventConsole.Screen.BarChart
import EventConsole.Screen.Paragraph
import EventConsole.Screen.Canvas
import EventConsole.Screen.Layout
import EventConsole.Screen.Line
import EventConsole.Screen.LineChart
import EventConsole.Screen.Table
import EventConsole.SortedMap
import EventConsole.StatsSnapshot
import EventConsole.Text.Base64
import EventConsole.Text.Letter
import EventConsole.Text.CaseTable
import EventConsole.Text.CellTable
import EventConsole.Text.Cells
import EventConsole.Text.DisplayUnit
import EventConsole.Text.LetterCase
import EventConsole.Text.UnitTable
import EventConsole.Text.Utf8
import EventConsole.Theme
import EventConsole.Time.Calendar
import EventConsole.Time.Rfc3339
import EventConsole.Time.Instant
import EventConsole.Url.Address
import EventConsole.Url.Basic
import EventConsole.Url.CombiningTable
import EventConsole.Url.Composition
import EventConsole.Url.Domain
import EventConsole.Url.DomainTable
import EventConsole.Url.FilePath
import EventConsole.Url.Label
import EventConsole.Url.LabelTable
import EventConsole.Url.Parse
import EventConsole.Url.Path
import EventConsole.Url.PercentEncoding
import EventConsole.Url.Punycode
import EventConsole.Url.SequenceTable
import EventConsole.View.Chart
import EventConsole.View.Dashboard
import EventConsole.View.Events
import EventConsole.View.Panel
import EventConsole.View.Login
import EventConsole.Proofs.Decoding
import EventConsole.Proofs.SortedMap
import EventConsole.Proofs.Sorting
import EventConsole.Proofs.Highlight
import EventConsole.Proofs.Text.Pieces
import EventConsole.Proofs.Text.Truncate
import EventConsole.Proofs.Text.CodeSet
import EventConsole.Proofs.Text.Blank
import EventConsole.Proofs.Text.Decimal
import EventConsole.Proofs.Text.Utf8
import EventConsole.Proofs.Text.Base64
import EventConsole.Proofs.Text.LetterCase
import EventConsole.Proofs.Time.Instant
import EventConsole.Proofs.Time.Calendar
import EventConsole.Proofs.Time.Rfc3339
import EventConsole.Proofs.Time.Seconds
import EventConsole.Proofs.Time.Age
import EventConsole.Proofs.Time.TextOrder
import EventConsole.Proofs.Random.Source
import EventConsole.Proofs.Json.Decode
import EventConsole.Proofs.Json.Printer
import EventConsole.Proofs.Json.Token
import EventConsole.Proofs.Json.Tokens
import EventConsole.Proofs.Json.Reader
import EventConsole.Proofs.Highlight.Pieces
import EventConsole.Proofs.Highlight.Traversal
import EventConsole.Proofs.Highlight.Scanning
import EventConsole.Proofs.Json.Event
import EventConsole.Proofs.Json.Snapshot
import EventConsole.Proofs.Profiles
import EventConsole.Proofs.Url.PercentEncoding
import EventConsole.Proofs.Url.Path
import EventConsole.Proofs.Url.Address
import EventConsole.Proofs.Url.Punycode
import EventConsole.Proofs.Url.Pairs
import EventConsole.Proofs.Url.Composition
import EventConsole.Proofs.Url.Mapping
import EventConsole.Proofs.Url.Domain
import EventConsole.Proofs.Url.Host
import EventConsole.Proofs.Url.Authority
import EventConsole.Proofs.Url.Origin
import EventConsole.Proofs.Client.Headers
import EventConsole.Proofs.CommandLine.Groups
import EventConsole.Proofs.CommandLine.Order
import EventConsole.Proofs.CommandLine.Dialogue
import EventConsole.Proofs.CommandLine.Saving
import EventConsole.Proofs.CommandLine.Neighbours
import EventConsole.Proofs.CommandLine.Server
import EventConsole.Proofs.CommandLine.InvalidServer
import EventConsole.Proofs.Demo.Access
import EventConsole.Proofs.Demo.Query
import EventConsole.Proofs.Demo.Page
import EventConsole.Proofs.Demo.Stats
import EventConsole.Proofs.Demo.Tallies
import EventConsole.Proofs.Demo.Window
import EventConsole.Proofs.Demo.Logins
import EventConsole.Proofs.Demo.Sample
import EventConsole.Proofs.Demo.Stream
import EventConsole.Proofs.Demo.Stock
import EventConsole.Proofs.Demo.Snapshot
import EventConsole.Proofs.Demo.Arrivals
import EventConsole.Proofs.Demo.Freshness
import EventConsole.Proofs.Dashboard.Statistics
import EventConsole.Proofs.Dashboard.Agents
import EventConsole.Proofs.Dashboard.Outcomes
import EventConsole.Proofs.Dashboard.Labels
import EventConsole.Proofs.Dashboard.TopLists
import EventConsole.Proofs.EventBrowser.Paging
import EventConsole.Proofs.EventBrowser.Walk
import EventConsole.Proofs.EventBrowser.Operation
import EventConsole.Proofs.EventBrowser.Filtering
import EventConsole.Proofs.EventBrowser.Requests
import EventConsole.Proofs.EventBrowser.Provenance
import EventConsole.Proofs.EventBrowser.Detail
import EventConsole.Proofs.EventBrowser.Scrolling
import EventConsole.Proofs.EventBrowser.Vocabulary
import EventConsole.Proofs.EventBrowser.WellFormed
import EventConsole.Proofs.EventBrowser.FailedLoad
import EventConsole.Proofs.EventBrowser.Indicator
import EventConsole.Proofs.EventFilter
import EventConsole.Proofs.Screen.Drawing
import EventConsole.Proofs.Screen.Table
import EventConsole.Proofs.Screen.Layout
import EventConsole.Proofs.View.Chart
import EventConsole.Proofs.View.Events
import EventConsole.Proofs.EventBrowser.Opening
import EventConsole.Proofs.Console.Begins
import EventConsole.Proofs.Console.Effect
import EventConsole.Proofs.Console.Capture
import EventConsole.Proofs.Console.Turns
import EventConsole.Proofs.Console.Credential
import EventConsole.Proofs.Console.Guard
import EventConsole.Proofs.Console.Outstanding
import EventConsole.Proofs.Console.Trace
import EventConsole.Proofs.Console.Isolation
import EventConsole.Proofs.Console.Acceptance
import EventConsole.Proofs.LoginForm
import EventConsole.Proofs.Console.Veil
import EventConsole.Proofs.Console.Secrecy
