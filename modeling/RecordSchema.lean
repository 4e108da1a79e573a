import RecordSchema.Calendar.Date
import RecordSchema.Calendar.DateTime
import RecordSchema.Calendar.Digits
import RecordSchema.Calendar.Temporal
import RecordSchema.Calendar.TimeOfDay
import RecordSchema.Description
import RecordSchema.Error
import RecordSchema.Event
import RecordSchema.Finding
import RecordSchema.Journal
import RecordSchema.Json.Basic
import RecordSchema.Json.Reader
import RecordSchema.Json.Text
import RecordSchema.Kind
import RecordSchema.Number.Binary64
import RecordSchema.Number.Scaling
import RecordSchema.Number.Shortest
import RecordSchema.Number.Text
import RecordSchema.Path
import RecordSchema.Pattern.Basic
import RecordSchema.Pattern.ByteRanges
import RecordSchema.Pattern.CharClass
import RecordSchema.Pattern.Escape
import RecordSchema.Pattern.Expression
import RecordSchema.Pattern.Flags
import RecordSchema.Pattern.Load
import RecordSchema.Pattern.Plan
import RecordSchema.Pattern.ProgramSize
import RecordSchema.Pattern.Reader
import RecordSchema.Pattern.Search
import RecordSchema.Pattern.SetStates
import RecordSchema.Pattern.WordTree
import RecordSchema.Proofs.Calendar.Days
import RecordSchema.Proofs.Calendar.Digits
import RecordSchema.Proofs.Calendar.Forms
import RecordSchema.Proofs.Calendar.Instants
import RecordSchema.Proofs.Calendar.RoundTrip
import RecordSchema.Proofs.Calendar.Scales
import RecordSchema.Proofs.Description.Depth
import RecordSchema.Proofs.Description.Drafting
import RecordSchema.Proofs.Description.Entries
import RecordSchema.Proofs.Description.Grammar
import RecordSchema.Proofs.Description.Nesting
import RecordSchema.Proofs.Description.Paths
import RecordSchema.Proofs.Description.Phases
import RecordSchema.Proofs.Description.Readings
import RecordSchema.Proofs.Description.Reordering
import RecordSchema.Proofs.Json.Equality
import RecordSchema.Proofs.Json.Fields
import RecordSchema.Proofs.Json.Reading
import RecordSchema.Proofs.Json.Reordering
import RecordSchema.Proofs.Number.Rounding
import RecordSchema.Proofs.Pattern.Counts
import RecordSchema.Proofs.Pattern.Matching
import RecordSchema.Proofs.Record.Agreement
import RecordSchema.Proofs.Record.Construction
import RecordSchema.Proofs.Record.Perfecting
import RecordSchema.Proofs.Record.Reachable
import RecordSchema.Proofs.Record.Registration
import RecordSchema.Proofs.Record.Repair
import RecordSchema.Proofs.Record.Storage
import RecordSchema.Proofs.Rule.Acceptance
import RecordSchema.Proofs.Rule.AlongPaths
import RecordSchema.Proofs.Rule.Below
import RecordSchema.Proofs.Rule.CalendarTexts
import RecordSchema.Proofs.Rule.Coherence
import RecordSchema.Proofs.Rule.Conformance
import RecordSchema.Proofs.Rule.Consistency
import RecordSchema.Proofs.Rule.Constraints
import RecordSchema.Proofs.Rule.Duplicates
import RecordSchema.Proofs.Rule.Genuine
import RecordSchema.Proofs.Rule.Groups
import RecordSchema.Proofs.Rule.InstantLimits
import RecordSchema.Proofs.Rule.Issues
import RecordSchema.Proofs.Rule.Location
import RecordSchema.Proofs.Rule.Members
import RecordSchema.Proofs.Rule.Paths
import RecordSchema.Proofs.Rule.Relaxation
import RecordSchema.Proofs.Rule.Reordering
import RecordSchema.Proofs.Rule.Reports
import RecordSchema.Proofs.Rule.Rerooting
import RecordSchema.Proofs.Rule.Structure
import RecordSchema.Proofs.Rule.Tally
import RecordSchema.Proofs.Rule.Visits
import RecordSchema.Proofs.Rule.WellFormed
import RecordSchema.Proofs.Rule.WholeLimits
import RecordSchema.Proofs.Rule.WholeNumbers
import RecordSchema.Proofs.Schema.Declarations
import RecordSchema.Proofs.Workspace.Records
import RecordSchema.Proofs.Workspace.Separation
import RecordSchema.Proofs.Workspace.Tracing
import RecordSchema.Record.Basic
import RecordSchema.Record.Journal
import RecordSchema.Record.Perfect
import RecordSchema.Record.Registry
import RecordSchema.Record.Validation
import RecordSchema.Rule.Basic
import RecordSchema.Rule.Check
import RecordSchema.Rule.Defect
import RecordSchema.Rule.Definition
import RecordSchema.Rule.Draft
import RecordSchema.Rule.Visit
import RecordSchema.Schema.Definition
import RecordSchema.Unicode.Age
import RecordSchema.Unicode.Blank
import RecordSchema.Unicode.CaseFolding
import RecordSchema.Unicode.CharSet
import RecordSchema.Unicode.GeneralCategory
import RecordSchema.Unicode.GraphemeBreak
import RecordSchema.Unicode.Name
import RecordSchema.Unicode.Property
import RecordSchema.Unicode.Script
import RecordSchema.Unicode.ScriptExtension
import RecordSchema.Unicode.SentenceBreak
import RecordSchema.Unicode.WordBreak
import RecordSchema.Violation
import RecordSchema.Workspace.Basic
import RecordSchema.Workspace.Source
