import StreamPlan.Aggregation.Validation
import StreamPlan.Schema.Document
import StreamPlan.Statement.Compile

/-! The processing section of a pipeline's configuration document. All other sections of the
document are ignored, and an absent section is an empty one. -/

set_option autoImplicit false

namespace StreamPlan

open Json (Value)

structure AggregationConfig where
  operation : String
  entries : List String
  deriving DecidableEq, Repr

structure Config where
  statements : List String
  aggregation : Option AggregationConfig
  depthLimit : Option Nat
  deriving DecidableEq, Repr

namespace AggregationConfig

def toJson (config : AggregationConfig) : Value :=
  .record [("operation_type", .text config.operation),
    ("rule", .array (config.entries.map Value.text))]

def ofJson? (value : Value) : Option AggregationConfig :=
  match value.fields? ["operation_type", "rule"] with
  | some [some operation, entries] => do
    some ⟨← operation.string?, ← (entries.getD (.array [])).list? Value.string?⟩
  | _ => none

end AggregationConfig

namespace Config

def empty : Config := ⟨[], none, none⟩

def limit (config : Config) : Nat := config.depthLimit.getD Expr.defaultLimit

def toJson (config : Config) : Value :=
  let aggregation := config.aggregation.toList.map fun given =>
    ("aggregations", given.toJson)
  let depthLimit := config.depthLimit.toList.map fun limit =>
    ("max_expression_depth", Value.nat limit)
  .record [("processing", .record
    (("transformation", .array (config.statements.map Value.text)) :: (aggregation ++ depthLimit)))]

def ofProcessing? (value : Value) : Option Config :=
  match value.fields? ["transformation", "aggregations", "max_expression_depth"] with
  | some [statements, aggregation, depthLimit] => do
    let statements ← (statements.getD (.array [])).list? Value.string?
    let aggregation ← (aggregation.getD .null).nullable? AggregationConfig.ofJson?
    let depthLimit ← (depthLimit.getD .null).nullable? (Value.natBelow? UInt64.size)
    some ⟨statements, aggregation, depthLimit⟩
  | _ => none

def ofJson? (value : Value) : Option Config :=
  match value.fields? ["processing"] with
  | some [some processing] => ofProcessing? processing
  | some [none] => some empty
  | _ => none

end Config
end StreamPlan
