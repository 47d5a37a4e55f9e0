import StreamPlan.Aggregation.Error
import StreamPlan.Aggregation.Operation
import StreamPlan.Aggregation.Parser
import StreamPlan.Aggregation.Rule
import StreamPlan.Aggregation.Validation
import StreamPlan.Binary64.Basic
import StreamPlan.Binary64.Rounding
import StreamPlan.Binary64.Shortest
import StreamPlan.Decimal.Layout
import StreamPlan.Decimal.Numeral
import StreamPlan.Expr.Basic
import StreamPlan.Expr.Error
import StreamPlan.Expr.Json
import StreamPlan.Expr.Literal
import StreamPlan.Expr.Parser
import StreamPlan.Expr.Token
import StreamPlan.Json.Decode
import StreamPlan.Json.Number
import StreamPlan.Json.Reader
import StreamPlan.Json.Token
import StreamPlan.Json.Value
import StreamPlan.Json.Writer
import StreamPlan.Main
import StreamPlan.Pipeline.Command
import StreamPlan.Pipeline.Config
import StreamPlan.Pipeline.Journal
import StreamPlan.Pipeline.Plan
import StreamPlan.Proofs.Binary64.Rounding
import StreamPlan.Proofs.Binary64.Shortest
import StreamPlan.Proofs.Decimal.Numeral
import StreamPlan.Proofs.Expr.Grammar
import StreamPlan.Proofs.Expr.Parsing
import StreamPlan.Proofs.Text.Split
import StreamPlan.Schema.Basic
import StreamPlan.Schema.Document
import StreamPlan.Schema.FieldType
import StreamPlan.Statement.Compile
import StreamPlan.Statement.Dump
import StreamPlan.Statement.Item
import StreamPlan.Statement.Json
import StreamPlan.Text.Age
import StreamPlan.Text.Alphabetic
import StreamPlan.Text.Class
import StreamPlan.Text.CodeRanges
import StreamPlan.Text.GraphemeExtend
import StreamPlan.Text.Mark
import StreamPlan.Text.Names
import StreamPlan.Text.Number
import StreamPlan.Text.Quoted
import StreamPlan.Text.Trim
import StreamPlan.Text.Unprintable
import StreamPlan.Proofs.Decimal.Layout
import StreamPlan.Proofs.Text.Class
import StreamPlan.Proofs.Text.Trim
import StreamPlan.Proofs.Expr.Literal
import StreamPlan.Proofs.Expr.Quoting
import StreamPlan.Proofs.Expr.Rendering
import StreamPlan.Proofs.Expr.RoundTrip
import StreamPlan.Proofs.Aggregation.Compile
import StreamPlan.Proofs.Aggregation.Json
import StreamPlan.Proofs.Expr.Json
import StreamPlan.Proofs.Pipeline.Plan
import StreamPlan.Proofs.Aggregation.Partition
import StreamPlan.Proofs.Expr.Cutting
import StreamPlan.Proofs.Expr.Outcome
import StreamPlan.Proofs.Expr.Arguments
import StreamPlan.Proofs.Expr.WellFormed
import StreamPlan.Proofs.Pipeline.WellFormed
import StreamPlan.Proofs.Aggregation.Violations
import StreamPlan.Proofs.Expr.DepthLimit
import StreamPlan.Proofs.Statement.RoundTrip
import StreamPlan.Proofs.Expr.Spans
import StreamPlan.Proofs.Schema.Distinct
import StreamPlan.Proofs.Aggregation.Usable
import StreamPlan.Proofs.Aggregation.Faults
import StreamPlan.Proofs.Expr.Leftmost
import StreamPlan.Proofs.Expr.Blanks
import StreamPlan.Proofs.Expr.Composition
import StreamPlan.Proofs.Statement.ErrorPlaces
import StreamPlan.Proofs.Statement.Order
import StreamPlan.Proofs.Aggregation.Pieces
import StreamPlan.Proofs.Aggregation.Respelling
import StreamPlan.Proofs.Aggregation.FieldNames
import StreamPlan.Proofs.Aggregation.Stages
import StreamPlan.Proofs.Aggregation.Permutation
import StreamPlan.Proofs.Schema.Placement
import StreamPlan.Proofs.Pipeline.Config
import StreamPlan.Proofs.Expr.ErrorJson
import StreamPlan.Proofs.Pipeline.Descriptors
import StreamPlan.Proofs.Binary64.Nearest
import StreamPlan.Proofs.Decimal.Grammar
import StreamPlan.Proofs.Expr.Classification
import StreamPlan.Proofs.Expr.Fields
import StreamPlan.Proofs.Expr.Quotes
