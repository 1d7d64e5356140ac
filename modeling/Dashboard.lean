import Dashboard.Command.Arguments
import Dashboard.Command.Error
import Dashboard.Command.Report
import Dashboard.Command.Run
import Dashboard.Command.Stored
import Dashboard.Config
import Dashboard.Decimal.Binary64
import Dashboard.Decimal.Nearest
import Dashboard.Decimal.Shortest
import Dashboard.Decimal.Whole
import Dashboard.Document.Arrangement
import Dashboard.Document.Decoding
import Dashboard.Document.Encoding
import Dashboard.Document.Migration
import Dashboard.Document.Path
import Dashboard.Document.Validation
import Dashboard.Document.Workspace
import Dashboard.Files
import Dashboard.Filters
import Dashboard.Grid.Gesture
import Dashboard.Grid.Metrics
import Dashboard.Grid.Occupancy
import Dashboard.Grid.Placement
import Dashboard.Grid.Rect
import Dashboard.History
import Dashboard.Host
import Dashboard.Json.Printer
import Dashboard.Json.Reader
import Dashboard.Json.Token
import Dashboard.Json.Value
import Dashboard.Keyed
import Dashboard.Main
import Dashboard.Poll.Fetch
import Dashboard.Poll.Pool
import Dashboard.Poll.Quality
import Dashboard.Poll.Query
import Dashboard.Poll.TtlCell
import Dashboard.Poll.Worker
import Dashboard.Route
import Dashboard.Session
import Dashboard.Storage.Backend
import Dashboard.Storage.Store
import Dashboard.Template
import Dashboard.Text.Blank
import Dashboard.Text.FormEncoding
import Dashboard.Text.Lowercase
import Dashboard.Text.Percent
import Dashboard.Text.Printable
import Dashboard.Text.Punycode
import Dashboard.Text.Quoted
import Dashboard.Text.Utf8
import Dashboard.Time.Calendar
import Dashboard.Time.Instant
import Dashboard.Time.Millis
import Dashboard.Time.Rfc3339
import Dashboard.Toml.Quoted
import Dashboard.Toml.Reader
import Dashboard.Toml.Table
import Dashboard.Toml.Word
import Dashboard.Url.Basic
import Dashboard.Url.Host
import Dashboard.Url.Resolution
import Dashboard.Widget.Builtin
import Dashboard.Widget.Capability
import Dashboard.Widget.Health
import Dashboard.Widget.Payload
import Dashboard.Widget.Registry
import Dashboard.Widget.View
import Dashboard.Proofs.Document.Check
import Dashboard.Proofs.Document.Export
import Dashboard.Proofs.Document.Soundness
import Dashboard.Proofs.Document.Clock
import Dashboard.Proofs.Document.Modes
import Dashboard.Proofs.Document.RoundTrip
import Dashboard.Proofs.Document.Arrangement
import Dashboard.Proofs.Document.Stored
import Dashboard.Proofs.Session.Actions
import Dashboard.Proofs.Session.Kept
import Dashboard.Proofs.Session.Lifetime
import Dashboard.Proofs.Storage.Load
import Dashboard.Proofs.Storage.Leftover
import Dashboard.Proofs.Session.Refusals
import Dashboard.Proofs.Session.Validity
import Dashboard.Proofs.Session.Timeline
import Dashboard.Proofs.Session.Separation
import Dashboard.Proofs.Grid.FirstFit
import Dashboard.Proofs.Grid.Gesture
import Dashboard.Proofs.Session.Shown
import Dashboard.Proofs.Session.Frames
import Dashboard.Proofs.Session.Gesture
import Dashboard.Proofs.Session.Reorder
import Dashboard.Proofs.Session.Targets
import Dashboard.Proofs.Session.Spacing
import Dashboard.Proofs.Poll.Polling
import Dashboard.Proofs.Poll.Tickets
import Dashboard.Proofs.Poll.Numbers
import Dashboard.Proofs.Poll.Refresh
import Dashboard.Proofs.Poll.Stream
import Dashboard.Proofs.Poll.Reports
import Dashboard.Proofs.Poll.Staff
import Dashboard.Proofs.Poll.Retired
import Dashboard.Proofs.Url.Server
import Dashboard.Proofs.Document.Stamps
import Dashboard.Proofs.Storage.Calls
import Dashboard.Proofs.Storage.Writers
import Dashboard.Proofs.Document.Versions
import Dashboard.Proofs.Document.Refusal
import Dashboard.Proofs.Document.Damage
import Dashboard.Proofs.Document.Newer
import Dashboard.Proofs.Document.Silence
import Dashboard.Proofs.Poll.Applied
import Dashboard.Proofs.Poll.Reflection
import Dashboard.Proofs.Poll.Events
import Dashboard.Proofs.Poll.Mounting
import Dashboard.Proofs.Poll.Sync
import Dashboard.Proofs.Route
import Dashboard.Proofs.Text.Trimmed
import Dashboard.Proofs.Widget.Payload
import Dashboard.Proofs.Command.Add
import Dashboard.Proofs.Poll.Freshness
import Dashboard.Proofs.Session.Preferences
import Dashboard.Proofs.Command.Init
import Dashboard.Proofs.Document.FirstFault
