import Preferences.Binding
import Preferences.Book
import Preferences.Calendar.Config
import Preferences.Calendar.Date
import Preferences.Calendar.Period
import Preferences.Calendar.Service
import Preferences.Calendar.Survey
import Preferences.Calendar.TimeService
import Preferences.Calendar.Zone
import Preferences.Calendar.ZoneTable
import Preferences.Dict
import Preferences.Error
import Preferences.Folder
import Preferences.Guid
import Preferences.Identity
import Preferences.Json.Number
import Preferences.Json.Printer
import Preferences.Json.Reader
import Preferences.Json.Value
import Preferences.Kind.Checked
import Preferences.Kind.Choice
import Preferences.Kind.DateChoice
import Preferences.Kind.Plain
import Preferences.Kind.Range
import Preferences.Number.Binary
import Preferences.Number.Decimal
import Preferences.Number.Layout
import Preferences.Number.Shortest
import Preferences.Outcome
import Preferences.Preference
import Preferences.Preference.Blueprint
import Preferences.Preference.Body
import Preferences.Preference.Encoding
import Preferences.Proofs.Bindings
import Preferences.Proofs.Books
import Preferences.Proofs.Calendar.CalendarEnds
import Preferences.Proofs.Calendar.ChangingOffset
import Preferences.Proofs.Calendar.Configurations
import Preferences.Proofs.Calendar.FirstInstant
import Preferences.Proofs.Calendar.FixedOffset
import Preferences.Proofs.Calendar.Gregorian
import Preferences.Proofs.Calendar.PeriodDays
import Preferences.Proofs.Calendar.Selections
import Preferences.Proofs.DateHistory
import Preferences.Proofs.Decisions
import Preferences.Proofs.Encoding
import Preferences.Proofs.Failure
import Preferences.Proofs.Filing
import Preferences.Proofs.FlatMap
import Preferences.Proofs.FloatRanges
import Preferences.Proofs.Guarded
import Preferences.Proofs.GuardedKinds
import Preferences.Proofs.Json.Documents
import Preferences.Proofs.Json.Numerals
import Preferences.Proofs.Json.RoundTrip
import Preferences.Proofs.Json.Stores
import Preferences.Proofs.Listing
import Preferences.Proofs.Loading
import Preferences.Proofs.Notices
import Preferences.Proofs.Number.Rounding
import Preferences.Proofs.Parts
import Preferences.Proofs.Persistence
import Preferences.Proofs.Reach
import Preferences.Proofs.Remarks
import Preferences.Proofs.Resetting
import Preferences.Proofs.Restoration
import Preferences.Proofs.RestoringAll
import Preferences.Proofs.Toml.Acceptance
import Preferences.Proofs.Toml.FlatDocuments
import Preferences.Proofs.Toml.Strings
import Preferences.Proofs.TomlRoundTrip
import Preferences.Proofs.TomlStore
import Preferences.Proofs.TypedAccess
import Preferences.Registry
import Preferences.Session
import Preferences.Store
import Preferences.Stored
import Preferences.Text.Scan
import Preferences.Toml.Datetime
import Preferences.Toml.Item
import Preferences.Toml.Lexeme
import Preferences.Toml.Printer
import Preferences.Toml.Reader
import Preferences.Toml.Reserved
import Preferences.Toml.Value
import Preferences.Value
