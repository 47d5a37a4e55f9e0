import StreamPlan.Aggregation.Operation

set_option autoImplicit false

namespace StreamPlan.Aggregation

/-- A grouping key, or a field with the function that aggregates it. -/
structure Entry where
  functionName : Option String
  field : String
  isKey : Bool
  deriving DecidableEq, Repr

namespace Entry

def key (field : String) : Entry := ⟨none, field, true⟩

def aggregate (functionName field : String) : Entry := ⟨some functionName, field, false⟩

def function? (entry : Entry) : Option Function := entry.functionName.bind Function.ofName?

def render (entry : Entry) : String :=
  if entry.isKey then "key: " ++ entry.field
  else match entry.functionName with
    | some functionName => functionName ++ "(" ++ entry.field ++ ")"
    | none => entry.field

def toJson (entry : Entry) : Json.Value :=
  let function := entry.functionName.toList.map fun name => ("func_name", Json.Value.text name)
  .record (function ++ [("input_field", .text entry.field), ("key", .bool entry.isKey)])

def ofJson? (value : Json.Value) : Option Entry :=
  match value.fields? ["func_name", "input_field", "key"] with
  | some [functionName, some field, some isKey] => do
    let functionName ← (functionName.getD .null).nullable? Json.Value.string?
    some ⟨functionName, ← field.string?, ← isKey.bool?⟩
  | _ => none

end Entry

structure Rule where
  operation : Operation
  entries : List Entry
  deriving DecidableEq, Repr

namespace Rule

def keys (rule : Rule) : List String := (rule.entries.filter (·.isKey)).map (·.field)

def aggregations (rule : Rule) : List Entry := rule.entries.filter (!·.isKey)

def functions (rule : Rule) : List Function := rule.aggregations.filterMap Entry.function?

def toJson (rule : Rule) : Json.Value :=
  .record [("operation_type", rule.operation.toJson),
    ("rule", .array (rule.entries.map Entry.toJson))]

def ofJson? (value : Json.Value) : Option Rule :=
  match value.fields? ["operation_type", "rule"] with
  | some [some operation, some entries] => do
    some ⟨← Operation.ofJson? operation, ← entries.list? Entry.ofJson?⟩
  | _ => none

end Rule
end StreamPlan.Aggregation
