import ReportFilters.Calendar.Day
import ReportFilters.Calendar.Instant
import ReportFilters.Calendar.Parser
import ReportFilters.Catalog.Basic
import ReportFilters.Catalog.Builder
import ReportFilters.Catalog.CostQuery
import ReportFilters.Catalog.Declaration
import ReportFilters.Catalog.FilterType
import ReportFilters.Chain
import ReportFilters.Clock
import ReportFilters.Dictionary
import ReportFilters.Error
import ReportFilters.Filter.Basic
import ReportFilters.Filter.Edit
import ReportFilters.Filter.Stored
import ReportFilters.Hierarchy.Attribute
import ReportFilters.Hierarchy.Basic
import ReportFilters.Hierarchy.Frozen
import ReportFilters.Json.Number
import ReportFilters.Json.Parser
import ReportFilters.Json.Writer
import ReportFilters.Number.Binary64
import ReportFilters.Number.Shortest
import ReportFilters.Number.Text
import ReportFilters.Operator.Arity
import ReportFilters.Operator.Basic
import ReportFilters.Operator.Builtin
import ReportFilters.Operator.Registry
import ReportFilters.Report
import ReportFilters.Settings.Basic
import ReportFilters.Settings.Diagnostics
import ReportFilters.Settings.Document
import ReportFilters.Settings.Environment
import ReportFilters.Sql.Dialect
import ReportFilters.Sql.Fragment
import ReportFilters.Sql.Join
import ReportFilters.Sql.Statement
import ReportFilters.Text.Blank
import ReportFilters.Text.Lowercase
import ReportFilters.Text.Printable
import ReportFilters.Text.Quoted
import ReportFilters.Text.Ranges
import ReportFilters.Toml.Document
import ReportFilters.Toml.Text
import ReportFilters.Value.Basic
import ReportFilters.Value.Reading
import ReportFilters.Value.Stored
import ReportFilters.Proofs.Calendar.Civil
import ReportFilters.Proofs.Calendar.Midnight
import ReportFilters.Proofs.Calendar.Strict
import ReportFilters.Proofs.Calendar.Text
import ReportFilters.Proofs.Catalog.Ancestry
import ReportFilters.Proofs.Catalog.Built
import ReportFilters.Proofs.Catalog.Descent
import ReportFilters.Proofs.Catalog.Display
import ReportFilters.Proofs.Catalog.Making
import ReportFilters.Proofs.Catalog.Offers
import ReportFilters.Proofs.Catalog.Padding
import ReportFilters.Proofs.Catalog.Refusal
import ReportFilters.Proofs.Catalog.Registration
import ReportFilters.Proofs.Catalog.Resolution
import ReportFilters.Proofs.Chain.Alignment
import ReportFilters.Proofs.Chain.Assembly
import ReportFilters.Proofs.Chain.Composition
import ReportFilters.Proofs.Chain.Identity
import ReportFilters.Proofs.Chain.Links
import ReportFilters.Proofs.Chain.Membership
import ReportFilters.Proofs.Chain.Spelling
import ReportFilters.Proofs.Chain.Ungrouped
import ReportFilters.Proofs.Chain.Unseen
import ReportFilters.Proofs.Chain.Update
import ReportFilters.Proofs.Chain.Validity
import ReportFilters.Proofs.Condition.Grammar
import ReportFilters.Proofs.Condition.Parser
import ReportFilters.Proofs.Condition.Scan
import ReportFilters.Proofs.Condition.Text
import ReportFilters.Proofs.Filter.Contribution
import ReportFilters.Proofs.Filter.Membership
import ReportFilters.Proofs.FirstOccurrence
import ReportFilters.Proofs.Fragment.Disjunction
import ReportFilters.Proofs.Fragment.Marks
import ReportFilters.Proofs.Fragment.Places
import ReportFilters.Proofs.Fragment.Tidy
import ReportFilters.Proofs.Hierarchy.Calls
import ReportFilters.Proofs.Hierarchy.Frame
import ReportFilters.Proofs.Hierarchy.Lineage
import ReportFilters.Proofs.Hierarchy.Loops
import ReportFilters.Proofs.Hierarchy.Order
import ReportFilters.Proofs.Hierarchy.Reached
import ReportFilters.Proofs.Hierarchy.Walk
import ReportFilters.Proofs.Json.Exact
import ReportFilters.Proofs.Json.Finite
import ReportFilters.Proofs.Json.Number
import ReportFilters.Proofs.Json.Real
import ReportFilters.Proofs.Json.Scaling
import ReportFilters.Proofs.Json.Text
import ReportFilters.Proofs.Json.Tree
import ReportFilters.Proofs.Number.Digits
import ReportFilters.Proofs.Number.Rounding
import ReportFilters.Proofs.Number.Shortest
import ReportFilters.Proofs.Operator.AbsoluteDates
import ReportFilters.Proofs.Operator.Clauses
import ReportFilters.Proofs.Operator.Conditions
import ReportFilters.Proofs.Operator.Fitting
import ReportFilters.Proofs.Operator.Listed
import ReportFilters.Proofs.Operator.Midnights
import ReportFilters.Proofs.Operator.Preparation
import ReportFilters.Proofs.Operator.Registry
import ReportFilters.Proofs.Operator.RelativeDays
import ReportFilters.Proofs.Operator.Selection
import ReportFilters.Proofs.Operator.Shadowing
import ReportFilters.Proofs.Operator.Spelling
import ReportFilters.Proofs.Operator.TextSearch
import ReportFilters.Proofs.Operator.ThisWeek
import ReportFilters.Proofs.Operator.Undivided
import ReportFilters.Proofs.Outcome
import ReportFilters.Proofs.Report.Adding
import ReportFilters.Proofs.Report.Reached
import ReportFilters.Proofs.Report.RoundTrip
import ReportFilters.Proofs.Report.SameDay
import ReportFilters.Proofs.Report.Settled
import ReportFilters.Proofs.Report.Stored
import ReportFilters.Proofs.Settings.Expansion
import ReportFilters.Proofs.Settings.Filling
import ReportFilters.Proofs.Settings.Pieces
import ReportFilters.Proofs.Sql.Alignment
import ReportFilters.Proofs.Sql.Bounds
import ReportFilters.Proofs.Sql.Conjunction
import ReportFilters.Proofs.Sql.Grouping
import ReportFilters.Proofs.Sql.Identifiers
import ReportFilters.Proofs.Sql.Like
import ReportFilters.Proofs.Sql.Names
import ReportFilters.Proofs.Sql.Runs
import ReportFilters.Proofs.Sql.Truth
import ReportFilters.Proofs.Steps
import ReportFilters.Proofs.Text.Blank
import ReportFilters.Proofs.Value.Moment
import ReportFilters.Proofs.Value.Spelling
import ReportFilters.Proofs.Value.Stored
