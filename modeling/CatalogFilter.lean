import CatalogFilter.Number.Basic
import CatalogFilter.Text.Blank
import CatalogFilter.Text.Case
import CatalogFilter.Text.DecimalDigit
import CatalogFilter.Text.Quoted
import CatalogFilter.Calendar.Timestamp
import CatalogFilter.Datum.Text
import CatalogFilter.Datum.Equality
import CatalogFilter.Json.Writer
import CatalogFilter.Operator
import CatalogFilter.Error
import CatalogFilter.Node.Check
import CatalogFilter.Node.Equality
import CatalogFilter.Document.Reader
import CatalogFilter.Document.Writer
import CatalogFilter.Document.Assembly
import CatalogFilter.Builder
import CatalogFilter.Builder.Session
import CatalogFilter.Node.Walk
import CatalogFilter.Dialect.Basic
import CatalogFilter.Dialect.OData
import CatalogFilter.Dialect.Sql
import CatalogFilter.Dialect.Text
import CatalogFilter.Dialect.Pattern
import CatalogFilter.Dialect.Search
import CatalogFilter.Dialect.QueryAssembly
import CatalogFilter.Field
import CatalogFilter.Queryables
import CatalogFilter.SearchBody
import CatalogFilter.Proofs.Calendar.Date
import CatalogFilter.Proofs.Calendar.Timestamp
import CatalogFilter.Proofs.Datum.Equality
import CatalogFilter.Proofs.Outcome
import CatalogFilter.Proofs.Text.LowerCase
import CatalogFilter.Proofs.Node.Parts
import CatalogFilter.Proofs.Document.Argument
import CatalogFilter.Proofs.Document.Reading
import CatalogFilter.Proofs.Document.Grammar
import CatalogFilter.Proofs.Document.RoundTrip
import CatalogFilter.Proofs.Document.Image
import CatalogFilter.Proofs.Document.Canonical
import CatalogFilter.Proofs.Search.Matching
import CatalogFilter.Proofs.Search.Decoded
import CatalogFilter.Proofs.Search.Meaning
import CatalogFilter.Proofs.Node.Connectives
import CatalogFilter.Proofs.Node.Construct
import CatalogFilter.Proofs.Node.Coerce
import CatalogFilter.Proofs.Node.Factory
import CatalogFilter.Proofs.Builder.Run
import CatalogFilter.Proofs.Builder.Meaning
import CatalogFilter.Proofs.Builder.Leaves
import CatalogFilter.Proofs.Builder.Rules
import CatalogFilter.Proofs.Document.Assembly
import CatalogFilter.Proofs.Number.Rounding
import CatalogFilter.Proofs.Calendar.Distinct
import CatalogFilter.Proofs.Number.Shortest
import CatalogFilter.Proofs.Text.Runs
import CatalogFilter.Proofs.Text.Joined
import CatalogFilter.Proofs.Json.Numeral
import CatalogFilter.Proofs.Json.NumberText
import CatalogFilter.Proofs.Json.RoundTrip
import CatalogFilter.Proofs.Node.Each
import CatalogFilter.Proofs.Document.Dumps
import CatalogFilter.Proofs.Dialect.Phrases
import CatalogFilter.Proofs.Dialect.Quotes
import CatalogFilter.Proofs.Dialect.Wkt
import CatalogFilter.Proofs.Dialect.TextQuotes
import CatalogFilter.Proofs.Dialect.Grammar
import CatalogFilter.Proofs.Dialect.Connectives
import CatalogFilter.Proofs.Dialect.Spelling
import CatalogFilter.Proofs.Dialect.Leads
import CatalogFilter.Proofs.Dialect.Unambiguous
import CatalogFilter.Proofs.Dialect.QuoteFree
import CatalogFilter.Proofs.Dialect.SqlQuotes
import CatalogFilter.Proofs.Queryables.Undefined
import CatalogFilter.Proofs.Search.Fields
import CatalogFilter.Proofs.Search.Connectives
import CatalogFilter.Proofs.Search.Temporal
import CatalogFilter.Proofs.Ending
import CatalogFilter.Proofs.Dialect.Pattern
import CatalogFilter.Proofs.Dialect.Refusal
import CatalogFilter.Proofs.Search.Fragment
import CatalogFilter.Proofs.Search.Renaming
import CatalogFilter.Proofs.Node.References
import CatalogFilter.Proofs.Node.Conjuncts
import CatalogFilter.Proofs.Calendar.Precision
import CatalogFilter.Proofs.Document.References
import CatalogFilter.Proofs.Calendar.DayNumber
import CatalogFilter.Proofs.Calendar.Weeks
import CatalogFilter.Proofs.Calendar.Spellings
import CatalogFilter.Proofs.Document.Dates
import CatalogFilter.Proofs.Document.Shapes
import CatalogFilter.Proofs.Builder.Failure
import CatalogFilter.Proofs.Document.LetterCase
import CatalogFilter.Proofs.Node.Groups
import CatalogFilter.Proofs.Node.Places
import CatalogFilter.Proofs.Node.Attributes
import CatalogFilter.Proofs.Node.Walk
import CatalogFilter.Proofs.Text.Stripped
import CatalogFilter.Proofs.Json.Texts
import CatalogFilter.Proofs.Settings.FunctionNames
import CatalogFilter.Proofs.Document.Offered
import CatalogFilter.Proofs.Json.Finite
import CatalogFilter.Proofs.Queryables.Slots
import CatalogFilter.Proofs.Queryables.Schemas
import CatalogFilter.Proofs.Queryables.RoundTrip
