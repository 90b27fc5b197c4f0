import Bookmarks.Number.Literal
import Bookmarks.Json.Reader
import Bookmarks.Json.Writer
import Bookmarks.Json.Display
import Bookmarks.Json.Order
import Bookmarks.Time.Source
import Bookmarks.Query.Form
import Bookmarks.Suggestion
import Bookmarks.Finder
import Bookmarks.Sorting.Stable
import Bookmarks.Preset
import Bookmarks.Configuration
import Bookmarks.Database
import Bookmarks.ViewStore
import Bookmarks.HistoryStore
import Bookmarks.Proofs.Query.Joined
import Bookmarks.Proofs.Query.Render
import Bookmarks.Proofs.Query.Legible
import Bookmarks.Proofs.Query.RoundTrip
import Bookmarks.Proofs.Order.Arrange
import Bookmarks.Proofs.Order.Mirrored
import Bookmarks.Proofs.Order.Successive
import Bookmarks.Proofs.Order.Transitive
import Bookmarks.Proofs.Time.Day
import Bookmarks.Proofs.Time.Range
import Bookmarks.Proofs.Time.Universal
import Bookmarks.Proofs.Time.Calendar
import Bookmarks.Proofs.Time.RoundTrip
import Bookmarks.Proofs.Number.Decimal
import Bookmarks.Proofs.Json.Number
import Bookmarks.Proofs.Json.RoundTrip
import Bookmarks.Proofs.History.Text
import Bookmarks.Proofs.History.Session
import Bookmarks.Proofs.Text.Trim
import Bookmarks.Proofs.History.Operation
import Bookmarks.Proofs.History.Sound
import Bookmarks.Proofs.History.Storable
import Bookmarks.Proofs.History.Durable
import Bookmarks.Proofs.History.Reply
import Bookmarks.Proofs.History.Refusal
import Bookmarks.Proofs.History.Reload
import Bookmarks.Proofs.History.Loaded
import Bookmarks.Proofs.Distinct
import Bookmarks.Proofs.History.Replay
import Bookmarks.Proofs.History.Delay
import Bookmarks.Proofs.History.Written
import Bookmarks.Proofs.Outcome
import Bookmarks.Proofs.Json.Limits
import Bookmarks.Proofs.Json.Coercion
import Bookmarks.Proofs.View.Settings
import Bookmarks.Proofs.View.Load
import Bookmarks.Proofs.View.Save
import Bookmarks.Proofs.View.Shared
import Bookmarks.Proofs.View.Layered
import Bookmarks.Proofs.View.Fallback
import Bookmarks.Proofs.Preset.Active
import Bookmarks.Proofs.Preset.Applied
import Bookmarks.Proofs.Canonical
import Bookmarks.Proofs.History.Salvage
import Bookmarks.Proofs.History.Usable
import Bookmarks.Proofs.Number.Finite
import Bookmarks.Proofs.Number.Reckoning
import Bookmarks.Proofs.Number.Value
import Bookmarks.Proofs.Finder.Reading
import Bookmarks.Proofs.Finder.Accept
import Bookmarks.Proofs.Finder.Total
import Bookmarks.Proofs.Query.Seam
import Bookmarks.Proofs.Query.Demand
import Bookmarks.Proofs.Finder.Narrow
import Bookmarks.Proofs.Text.Lower
import Bookmarks.Proofs.Finder.Mention
import Bookmarks.Proofs.History.Isolated
import Bookmarks.Proofs.Finder.Facets
import Bookmarks.Proofs.Finder.Shuffled
import Bookmarks.Proofs.Query.Bar
import Bookmarks.Proofs.Finder.Bar
import Bookmarks.Proofs.Time.Period
import Bookmarks.Proofs.Time.Agree
import Bookmarks.Proofs.Time.Nested
import Bookmarks.Proofs.Order.Contiguous
import Bookmarks.Proofs.Finder.Alike
import Bookmarks.Proofs.Finder.Stages
import Bookmarks.Proofs.Suggestion
import Bookmarks.Proofs.Text.Table
import Bookmarks.Proofs.Text.Swap
import Bookmarks.Proofs.Order.Title
import Bookmarks.Proofs.Database.Memory
import Bookmarks.Proofs.Database.Shared
