import LooseRecords.CommandLine.Main
import LooseRecords.Proofs.Checks
import LooseRecords.Proofs.Query.Meaning
import LooseRecords.Proofs.Number.Nearest
import LooseRecords.Proofs.Query.WholeNumbers
import LooseRecords.Proofs.Inference
import LooseRecords.Proofs.Naming
import LooseRecords.Proofs.Schema.Columns
import LooseRecords.Proofs.Schema.Inferred
import LooseRecords.Proofs.Calendar.Date
import LooseRecords.Proofs.Calendar.Instant
import LooseRecords.Proofs.Coercion.Dates
import LooseRecords.Proofs.Text.CodeTable
import LooseRecords.Proofs.Text.Lowercase
import LooseRecords.Proofs.Token
import LooseRecords.Proofs.Number.Layout
import LooseRecords.Proofs.Number.Truncate
import LooseRecords.Proofs.Coercion.Values
import LooseRecords.Proofs.Schema.Validity
import LooseRecords.Proofs.Query.Requests
import LooseRecords.Proofs.Query.Rejections
import LooseRecords.Proofs.Query.CellQueries
import LooseRecords.Proofs.Number.Order
import LooseRecords.Proofs.Query.FieldQueries
import LooseRecords.Proofs.Query.CellTypes
import LooseRecords.Proofs.Query.NumericColumns
import LooseRecords.Proofs.Schema.Categories
import LooseRecords.Proofs.Json.Strings
import LooseRecords.Proofs.Schema.JsonText
import LooseRecords.Proofs.CommandLine.Files
import LooseRecords.Proofs.CommandLine.SchemaFile
import LooseRecords.Proofs.CommandLine.Run
import LooseRecords.Proofs.Schema.Sightings
import LooseRecords.Proofs.Readings
import LooseRecords.Proofs.Samples
import LooseRecords.CommandLine.Acts
import LooseRecords.Proofs.CommandLine.Query
import LooseRecords.Proofs.CommandLine.Acts
import LooseRecords.Proofs.Schema.Names
import LooseRecords.Proofs.Shorthand
import LooseRecords.Proofs.Json.Numbers
import LooseRecords.Proofs.CommandLine.Clauses
import LooseRecords.Proofs.CommandLine.FieldShorthands
import LooseRecords.Proofs.Calendar.Written
import LooseRecords.Proofs.Calendar.Shapes
import LooseRecords.Proofs.Calendar.ReadingOrder
import LooseRecords.Proofs.Text.Slice
import LooseRecords.Proofs.Shorthand.InPlace
import LooseRecords.Proofs.Shorthand.Grammar
import LooseRecords.Proofs.Json.Words
import LooseRecords.Proofs.Query.CoercedEquality
import LooseRecords.Proofs.Shorthand.Options
import LooseRecords.Proofs.Query.DateOperands
import LooseRecords.Proofs.Number.Rounding
import LooseRecords.Proofs.Number.Decimal
import LooseRecords.Proofs.Number.Shortest
import LooseRecords.Proofs.Json.NumberText
import LooseRecords.Proofs.Json.WrittenNumbers
import LooseRecords.Proofs.Coercion.PlainTexts
import LooseRecords.Proofs.Inference.Alike
import LooseRecords.Proofs.Inference.Members
import LooseRecords.Proofs.Inference.NumberTexts
import LooseRecords.Proofs.Inference.Padding
import LooseRecords.Proofs.Schema.Faults
import LooseRecords.Proofs.Inference.RuleOrder
import LooseRecords.Proofs.Naming.Search
import LooseRecords.Proofs.Record.Insertions
