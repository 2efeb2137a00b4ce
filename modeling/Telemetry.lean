import Telemetry.Configuration.Error
import Telemetry.Configuration.Properties
import Telemetry.Configuration.Registry
import Telemetry.Decimal.Binary
import Telemetry.Decimal.Notation
import Telemetry.Decimal.Reading
import Telemetry.Decimal.Shortest
import Telemetry.Definition.Aggregation
import Telemetry.Definition.Basic
import Telemetry.Definition.Group
import Telemetry.Definition.Sample
import Telemetry.Definition.Set
import Telemetry.Definition.Variable
import Telemetry.Engine
import Telemetry.Equation.Error
import Telemetry.Equation.Function
import Telemetry.Equation.Lexer
import Telemetry.Equation.Node
import Telemetry.Equation.Parser
import Telemetry.Equation.Token
import Telemetry.Exceptions
import Telemetry.Filter
import Telemetry.Json.Basic
import Telemetry.Json.Field
import Telemetry.Json.Numeral
import Telemetry.Json.Path
import Telemetry.Json.Printer
import Telemetry.Json.Written
import Telemetry.Metric
import Telemetry.NameMap
import Telemetry.Notification.Basic
import Telemetry.Notification.Log
import Telemetry.Notification.Memory
import Telemetry.Notification.Sink
import Telemetry.Pattern.Basic
import Telemetry.Pattern.Bracket
import Telemetry.Pattern.Escape
import Telemetry.Pattern.Library
import Telemetry.Pattern.Matcher
import Telemetry.Pattern.Property
import Telemetry.Pattern.Reader
import Telemetry.Power
import Telemetry.Proofs.Definition.Routing
import Telemetry.Proofs.NameMap
import Telemetry.Proofs.State.Isolation
import Telemetry.Proofs.State.Locality
import Telemetry.Schema.Attribute
import Telemetry.Schema.Basic
import Telemetry.Schema.Extraction
import Telemetry.Schema.Set
import Telemetry.Schema.Timestamp
import Telemetry.Schema.ValueSource
import Telemetry.Settings
import Telemetry.State.Store
import Telemetry.State.Update
import Telemetry.Text.Blank
import Telemetry.Text.Category
import Telemetry.Text.Folding
import Telemetry.Text.Letter
import Telemetry.Text.Natural
import Telemetry.Text.Quoted
import Telemetry.Text.Runs
import Telemetry.Text.Script
import Telemetry.Text.WordChar
import Telemetry.Time.Calendar
import Telemetry.Time.Duration
import Telemetry.Time.Fields
import Telemetry.Time.Instant
import Telemetry.Time.Pattern
import Telemetry.Time.Stamp
import Telemetry.Value
import Telemetry.Proofs.Engine.Orphan
import Telemetry.Proofs.Definition.Newest
import Telemetry.Proofs.Definition.Interleaving
import Telemetry.Proofs.Equation.Grammar
import Telemetry.Proofs.Equation.Parsers
import Telemetry.Proofs.Equation.Parsing
import Telemetry.Proofs.Equation.Faults
import Telemetry.Proofs.Equation.Typing
import Telemetry.Proofs.Exceptions.Window
import Telemetry.Proofs.Exceptions.History
import Telemetry.Proofs.Schema.Set
import Telemetry.Proofs.Schema.Independence
import Telemetry.Proofs.Schema.Attributes
import Telemetry.Proofs.Engine.Producers
import Telemetry.Proofs.Decimal.Double
import Telemetry.Proofs.Decimal.Rounding
import Telemetry.Proofs.State.Groups
import Telemetry.Proofs.Equation.Finite
import Telemetry.Proofs.Json.RoundTrip
import Telemetry.Proofs.State.Persistence
import Telemetry.Proofs.Time.Calendar
import Telemetry.Proofs.Time.Stamp
import Telemetry.Proofs.Time.Pattern
import Telemetry.Proofs.Schema.Storable
import Telemetry.Proofs.State.Readable
import Telemetry.Proofs.Engine.Readable
import Telemetry.Proofs.Decimal.Nearest
import Telemetry.Proofs.Decimal.Shortest
import Telemetry.Proofs.State.Expiry
import Telemetry.Proofs.Schema.Output
import Telemetry.Proofs.Configuration.Blocks
import Telemetry.Proofs.Configuration.Faults
import Telemetry.Proofs.Configuration.Recognized
import Telemetry.Proofs.Schema.Messages
import Telemetry.Proofs.Schema.Reports
import Telemetry.Proofs.Definition.Series
import Telemetry.Proofs.Definition.Arrivals
import Telemetry.Proofs.Schema.Surfaced
import Telemetry.Proofs.Pattern.Leads
import Telemetry.Proofs.Pattern.Readers
import Telemetry.Proofs.Pattern.Escapes
import Telemetry.Proofs.Pattern.Classes
import Telemetry.Proofs.Pattern.Steps
import Telemetry.Proofs.Pattern.Nesting
import Telemetry.Proofs.Pattern.Whole
import Telemetry.Proofs.Equation.Contagion
import Telemetry.Proofs.Json.Lookup
import Telemetry.Proofs.Json.Leaves
import Telemetry.Proofs.Schema.Flattening
import Telemetry.Proofs.Decimal.Plain
import Telemetry.Proofs.Equation.Words
import Telemetry.Proofs.Equation.Printing
import Telemetry.Proofs.Definition.Configured
import Telemetry.Proofs.Equation.Leaves
import Telemetry.Proofs.Definition.Closed
import Telemetry.Proofs.Definition.Updates
import Telemetry.Proofs.Definition.Aggregates
import Telemetry.Proofs.Schema.Reconfigured
import Telemetry.Proofs.Definition.Reconfigured
import Telemetry.Proofs.Equation.Declarations
import Telemetry.Proofs.Definition.Unknown
import Telemetry.Proofs.Notification.Kept
import Telemetry.Proofs.Notification.Capacity
import Telemetry.Proofs.Time.Duration
import Telemetry.Proofs.Definition.Retained
import Telemetry.Proofs.Equation.Places
import Telemetry.Proofs.Equation.Cursor
import Telemetry.Proofs.Equation.Offsets
import Telemetry.Proofs.Equation.Spans
import Telemetry.Proofs.Equation.Counted
import Telemetry.Proofs.Equation.Height
import Telemetry.Proofs.Equation.Variables
import Telemetry.Proofs.Equation.Variables
import Telemetry.Proofs.Configuration.Partition
import Telemetry.Proofs.Configuration.Parameters
