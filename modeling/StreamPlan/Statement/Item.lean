import StreamPlan.Expr.Basic
import StreamPlan.Expr.Error

set_option autoImplicit false

namespace StreamPlan

inductive Item where
  -- A field of the input, unchanged.
  | field (name : String)
  -- A new or replaced field with the expression that computes it.
  | derived (name : String) (body : Expr)
  deriving Repr, DecidableEq

def Item.outputName : Item → String
  | .field name => name
  | .derived name _ => name

inductive StatementError where
  -- Nothing stands before the colon.
  | missingFieldName (statement : String)
  -- The expression after the colon is refused.
  | expression (field : String) (cause : InvalidExpr)
  deriving DecidableEq, Repr

def StatementError.message : StatementError → String
  | .missingFieldName statement =>
    "Destination field name is missing in statement `" ++ statement ++ "`"
  | .expression field cause =>
    "Invalid transformation of field `" ++ field ++ "`: " ++ cause.message

/-- The failure behind this one, which a report shows below it. -/
def StatementError.cause? : StatementError → Option String
  | .missingFieldName _ => none
  | .expression _ cause => some cause.message

end StreamPlan
