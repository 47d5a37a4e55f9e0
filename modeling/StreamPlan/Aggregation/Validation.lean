import StreamPlan.Aggregation.Parser
import StreamPlan.Schema.Basic

/-! Rules against schemas. A rule fits a schema when every function is supported, rule and schema
have the same fields, no field is aggregated twice, and every function accepts its field. -/

set_option autoImplicit false

namespace StreamPlan.Aggregation.Rule

def unsupportedNames (rule : Rule) : List String :=
  Names.ofList ((rule.aggregations.filter (·.function?.isNone)).filterMap (·.functionName))

def mismatchedFields (rule : Rule) (schema : Schema) : List String :=
  Names.difference (rule.entries.map (·.field)) schema.names

def repeatedFields (rule : Rule) : List String :=
  let aggregated := rule.aggregations.map (·.field)
  (Names.ofList aggregated).filter fun field => decide (1 < aggregated.count field)

-- The violation of an aggregation whose function does not accept its field. What is unknown about
-- the entry is reported elsewhere.
def typeViolation? (schema : Schema) (entry : Entry) : Option RuleError :=
  match entry.function?, schema.type? entry.field with
  | some function, some type =>
    if function.accepts type then none else some (.incorrectFieldType entry.field function)
  | _, _ => none

def ofNames (violation : List String → RuleError) (names : List String) : List RuleError :=
  if names.isEmpty then [] else [violation names]

-- All violations: unsupported functions, mismatched fields, repeated aggregations in the order of
-- the fields, and wrong types in the order of the entries.
def violations (rule : Rule) (schema : Schema) : List RuleError :=
  ofNames .unsupportedFunctions rule.unsupportedNames ++
    ofNames .unknownOrUnusedFields (rule.mismatchedFields schema) ++
    rule.repeatedFields.map .alreadyAggregated ++
    rule.aggregations.filterMap (typeViolation? schema)

def report (reported : List RuleError) (rule : Rule) (schema : Schema) : List RuleError :=
  reported ++ rule.violations schema

def validate (rule : Rule) (schema : Schema) : Except (List RuleError) Unit :=
  match report [] rule schema with
  | [] => .ok ()
  | violations => .error violations

/-- Fails with the first violation. -/
def check (rule : Rule) (schema : Schema) : Except RuleError Unit :=
  match rule.violations schema with
  | [] => .ok ()
  | violation :: _ => .error violation

def compile (operation : String) (entries : List String) (schema : Schema) :
    Except RuleError Rule := do
  let rule ← Rule.parse operation entries
  rule.check schema
  .ok rule

end StreamPlan.Aggregation.Rule
