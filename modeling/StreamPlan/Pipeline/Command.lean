import StreamPlan.Json.Writer
import StreamPlan.Pipeline.Plan

/-! The two commands as functions from what they are given to what they print. -/

set_option autoImplicit false

namespace StreamPlan.Command

open Json (Value)

structure Outcome where
  exitCode : Nat
  output : String
  errors : String
  deriving DecidableEq, Repr

def indented (text : String) : String :=
  String.ofList (text.toList.flatMap fun c => if c = '\n' then "\n    ".toList else [c])

def report (message : String) (cause? : Option String) : String :=
  let cause := match cause? with
    | some cause => "\n\nCaused by:\n    " ++ indented cause
    | none => ""
  "Error: " ++ message ++ cause ++ "\n"

def failure (message : String) (cause? : Option String) : Outcome :=
  ⟨1, "", report message cause?⟩

def success (value : Value) : Outcome := ⟨0, value.pretty 0 ++ "\n", ""⟩

def compileTransformations (input : String) : Outcome :=
  match (Value.read? input).bind (Value.list? Value.string?) with
  | none => failure "Expected a JSON array of statements" none
  | some statements =>
    match Statement.compileAll Expr.defaultLimit statements with
    | .ok items => success (Item.listToJson items)
    | .error error => failure error.message error.cause?

-- Compiles a configuration document for the records that a data-structure document describes; that
-- document is looked at first.
def compileConfig (document? : Option String) (input : String) : Outcome :=
  match document? with
  | none => failure "Usage: compile-config <data_structure.json> < config.json" none
  | some document =>
    let plan := do
      let schema ← (Schema.ofDocument document).mapError PlanError.schema
      let config ← Config.ofDocument input
      config.compile schema
    match plan with
    | .ok plan => success plan.toJson
    | .error error => failure error.message error.cause?

end StreamPlan.Command
