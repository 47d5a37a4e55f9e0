import StreamPlan.Decimal.Layout

/-! The reasons for which an expression is refused. Positions count characters. -/

set_option autoImplicit false

namespace StreamPlan

inductive ExprError where
  | unbalancedParentheses (opening closing : Nat)
  | emptyExpression
  | emptyArgument (position : Nat)
  | unexpectedToken (position : Nat) (token : String)
  | unexpectedEnd (position : Nat)
  | invalidFunctionName (position : Nat) (name : String)
  | nestingTooDeep (limit : Nat)
  deriving DecidableEq, Repr

/-- An expression together with the reason for which it is refused. -/
structure InvalidExpr where
  expression : String
  error : ExprError
  deriving DecidableEq, Repr

open Decimal (natText)

def ExprError.message : ExprError → String
  | .unbalancedParentheses opening closing =>
    "Incorrect expression: " ++ natText opening ++ " open brackets and " ++ natText closing ++
      " close brackets"
  | .emptyExpression => "Expression is empty"
  | .emptyArgument position => "Argument is empty at position `" ++ natText position ++ "`"
  | .unexpectedToken position token =>
    "Unexpected `" ++ token ++ "` at position `" ++ natText position ++ "`"
  | .unexpectedEnd position =>
    "Input ended while expecting `)` at position `" ++ natText position ++ "`"
  | .invalidFunctionName position name =>
    "`" ++ name ++ "` is not a valid function name at position `" ++ natText position ++ "`"
  | .nestingTooDeep limit =>
    "Expression is nested deeper than the limit of " ++ natText limit ++ " calls"

def InvalidExpr.message (invalid : InvalidExpr) : String :=
  "Invalid expression `" ++ invalid.expression ++ "`: " ++ invalid.error.message

end StreamPlan
