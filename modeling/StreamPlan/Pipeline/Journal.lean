import StreamPlan.Pipeline.Plan
import StreamPlan.Statement.Dump

/-! The journal of a compilation: what is worth noting, in the order in which it happens. -/

set_option autoImplicit false

namespace StreamPlan

open Aggregation (Rule)
open Decimal (natText)

namespace Journal

inductive Level where
  | debug
  | trace
  deriving DecidableEq, Repr

def Level.name : Level → String
  | .debug => "DEBUG"
  | .trace => "TRACE"

structure Note where
  level : Level
  text : String
  deriving DecidableEq, Repr

/-- Whether a note is shown by a journal kept at some level; the level `trace` shows all. -/
def Note.shownAt (level : Level) (note : Note) : Bool :=
  level == .trace || note.level == .debug

def debug (text : String) : Note := ⟨.debug, text⟩

def trace (text : String) : Note := ⟨.trace, text⟩

def compiledItem (item : Item) : Note :=
  trace ("Compiled transformation statement into `" ++ item.dump ++ "`.")

/-- A note for each column made, and one at the end if no statement fails. -/
def ofStatements (limit : Nat) (statements : List String) : List Note :=
  (Statement.compiledBefore limit statements).map compiledItem ++
    match Statement.compileAll limit statements with
    | .ok items =>
      [debug ("Compiled " ++ natText items.length ++ " transformation statement(s).")]
    | .error _ => []

def parsedRule (rule : Rule) : Note :=
  debug ("Parsed `" ++ rule.operation.name ++ "` aggregation with " ++
    natText rule.entries.length ++ " entries (" ++
    natText (Aggregation.designatorCount rule.operation) ++ " key designator(s)).")

def compiledRule (rule : Rule) : Note :=
  debug ("Compiled `" ++ rule.operation.name ++ "` aggregation with key field(s) [" ++
    ", ".intercalate (rule.keys.map Text.quoted) ++ "].")

def ofAggregation (config : AggregationConfig) (schema : Schema) : List Note :=
  match Rule.parse config.operation config.entries with
  | .error _ => []
  | .ok rule =>
    parsedRule rule ::
      match rule.check schema with
      | .ok _ => [compiledRule rule]
      | .error _ => []

def compiledPlan (plan : Plan) : Note :=
  let aggregation := if plan.aggregation.isSome then "an" else "no"
  debug ("Compiled pipeline with " ++ natText plan.items.length ++ " transformation(s) and " ++
    aggregation ++ " aggregation.")

end Journal

open Journal in
-- The notes of a configuration's compilation. The aggregation is reached only if all statements
-- compile, the end only if all compiles.
def Config.journal (config : Config) (schema : Schema) : List Note :=
  ofStatements config.limit config.statements ++
    match Statement.compileAll config.limit config.statements with
    | .error _ => []
    | .ok _ =>
      (config.aggregation.toList.flatMap (ofAggregation · schema)) ++
        match config.compile schema with
        | .ok plan => [compiledPlan plan]
        | .error _ => []

end StreamPlan
