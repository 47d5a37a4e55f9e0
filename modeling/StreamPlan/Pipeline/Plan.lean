import StreamPlan.Pipeline.Config
import StreamPlan.Statement.Json

set_option autoImplicit false

namespace StreamPlan

open Json (Value)
open Aggregation (Rule RuleError)

structure Plan where
  items : List Item
  aggregation : Option Rule
  deriving DecidableEq, Repr

inductive PlanError where
  -- The text is no configuration document.
  | invalidDocument
  | schema (error : SchemaError)
  | statement (error : StatementError)
  | rule (error : RuleError)
  deriving DecidableEq, Repr

namespace PlanError

def message : PlanError → String
  | .invalidDocument => "Invalid configuration document"
  | .schema error => error.message
  | .statement error => error.message
  | .rule error => error.message

def cause? : PlanError → Option String
  | .statement error => error.cause?
  | _ => none

end PlanError

def AggregationConfig.compile (config : AggregationConfig) (schema : Schema) :
    Except RuleError Rule :=
  Rule.compile config.operation config.entries schema

namespace Config

def ofDocument (text : String) : Except PlanError Config :=
  match (Value.read? text).bind ofJson? with
  | some config => .ok config
  | none => .error .invalidDocument

def compileAggregation (config : Config) (schema : Schema) : Except RuleError (Option Rule) :=
  match config.aggregation with
  | none => .ok none
  | some aggregation => (aggregation.compile schema).map some

-- The plan of a configuration for records of a schema. Statements come first, so that their faults
-- are the ones reported.
def compile (config : Config) (schema : Schema) : Except PlanError Plan := do
  let items ← (Statement.compileAll config.limit config.statements).mapError .statement
  let aggregation ← (config.compileAggregation schema).mapError .rule
  .ok ⟨items, aggregation⟩

end Config

namespace Plan

def toJson (plan : Plan) : Value :=
  let aggregation := plan.aggregation.toList.map fun rule => ("aggregation", rule.toJson)
  .record (("transformations", Item.listToJson plan.items) :: aggregation)

def ofJson? (value : Value) : Option Plan :=
  match value.fields? ["transformations", "aggregation"] with
  | some [some items, aggregation] => do
    let items ← Item.listOfJson? 1 items
    let aggregation ← (aggregation.getD .null).nullable? Rule.ofJson?
    some ⟨items, aggregation⟩
  | _ => none

end Plan
end StreamPlan
