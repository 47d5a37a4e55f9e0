import StreamPlan.Aggregation.Operation
import StreamPlan.Decimal.Layout
import StreamPlan.Text.Names

set_option autoImplicit false

namespace StreamPlan.Aggregation

/-- Faults in the text of the entries, then those of a rule against a schema. -/
inductive RuleError where
  -- No call of a function, and no list of keys where one should be.
  | malformedEntry (entry : String)
  -- A call with something beside it.
  | ambiguousEntry (entry : String)
  | invalidCharacters (entry : String)
  | unbalancedParentheses (entry : String) (opening closing : Nat)
  | keyNotUnique (operation : Operation)
  | missingKey (operation : Operation)
  | unsupportedOperation (name : String)
  | unsupportedFunctions (names : List String)
  -- Fields that only the rule or only the schema has.
  | unknownOrUnusedFields (names : List String)
  | alreadyAggregated (field : String)
  | incorrectFieldType (field : String) (function : Function)
  deriving DecidableEq, Repr

open Decimal (natText)

def RuleError.message : RuleError → String
  | .malformedEntry entry => "Error in the field: " ++ entry
  | .ambiguousEntry entry => "Error in the rule: " ++ entry
  | .invalidCharacters entry => "Invalid characters detected in rule: " ++ entry
  | .unbalancedParentheses entry opening closing =>
    "The number of opening and closing parentheses does not match: " ++ natText opening ++
      " opening and " ++ natText closing ++ " closing in `" ++ entry ++ "`"
  | .keyNotUnique operation =>
    "Key field is not unique in rule for operation " ++ operation.name
  | .missingKey operation => "The operation " ++ operation.name ++ " don't contain key field"
  | .unsupportedOperation name =>
    "The operation " ++ name ++ " is not supported by the aggregation compiler"
  | .unsupportedFunctions names => "Unsupported function(s): " ++ Names.render names
  | .unknownOrUnusedFields names => "Unsupported or unused field(s): " ++ Names.render names
  | .alreadyAggregated field => "Aggregate already aggregated field " ++ field
  | .incorrectFieldType field function =>
    "Incorrect type of field " ++ field ++ " for function " ++ function.name

end StreamPlan.Aggregation
