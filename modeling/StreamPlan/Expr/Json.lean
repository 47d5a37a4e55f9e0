import StreamPlan.Expr.Basic
import StreamPlan.Expr.Error
import StreamPlan.Json.Decode

set_option autoImplicit false

namespace StreamPlan

open Json (Value)

namespace Literal

def toJson : Literal → Value
  | .bool value => .tagged "Bool" (.bool value)
  | .int value => .tagged "Int" (.integer value.toInt)
  | .float value => .tagged "Float" (.binary64 value)
  | .str text => .tagged "Str" (.text text)
  | .identifier name => .tagged "Identifier" (.text name)

def ofJson? (value : Value) : Option Literal :=
  match value.alternative? with
  | some ("Bool", some content) => content.bool?.map .bool
  | some ("Int", some content) => content.int64?.map .int
  | some ("Float", some content) => content.binary64?.map .float
  | some ("Str", some content) => content.string?.map .str
  | some ("Identifier", some content) => content.string?.map .identifier
  | _ => none

end Literal

namespace Expr

mutual

def toJson : Expr → Value
  | .literal value => .tagged "Literal" value.toJson
  | .call operation arguments =>
    .tagged "Call" (.record
      [("operation", .text operation), ("children", .array (toJsons arguments))])
termination_by structural node => node

def toJsons : List Expr → List Value
  | [] => []
  | node :: rest => toJson node :: toJsons rest
termination_by structural nodes => nodes

end

/-- Reads a tree from a value with at most `nesting` levels of arrays and objects. A literal takes
two levels; a call takes three, its arguments being below them. -/
def ofJson? : (nesting : Nat) → Value → Option Expr
  | nesting + 2, value =>
    match value.alternative? with
    | some ("Literal", some content) => (Literal.ofJson? content).map .literal
    | some ("Call", some content) =>
      match nesting, content.fields? ["operation", "children"] with
      | nesting + 1, some [some operation, some children] => do
        let operation ← operation.string?
        let arguments ← children.list? (ofJson? nesting)
        some (.call operation arguments)
      | _, _ => none
    | _ => none
  | _, _ => none

end Expr

namespace ExprError

def toJson : ExprError → Value
  | .unbalancedParentheses opening closing =>
    .tagged "UnbalancedParentheses" (.record [("open", .nat opening), ("close", .nat closing)])
  | .emptyExpression => .text "EmptyExpression"
  | .emptyArgument position => .tagged "EmptyArgument" (.record [("position", .nat position)])
  | .unexpectedToken position token =>
    .tagged "UnexpectedToken" (.record [("position", .nat position), ("token", .text token)])
  | .unexpectedEnd position => .tagged "UnexpectedEnd" (.record [("position", .nat position)])
  | .invalidFunctionName position name =>
    .tagged "InvalidFunctionName" (.record [("position", .nat position), ("name", .text name)])
  | .nestingTooDeep limit => .tagged "NestingTooDeep" (.record [("limit", .nat limit)])

def count? (value : Value) : Option Nat := value.natBelow? UInt64.size

def ofAlternative? (tag : String) (content : Value) : Option ExprError :=
  match tag with
  | "UnbalancedParentheses" =>
    match content.fields? ["open", "close"] with
    | some [some opening, some closing] => do
      some (.unbalancedParentheses (← count? opening) (← count? closing))
    | _ => none
  | "EmptyArgument" =>
    match content.fields? ["position"] with
    | some [some position] => (count? position).map .emptyArgument
    | _ => none
  | "UnexpectedToken" =>
    match content.fields? ["position", "token"] with
    | some [some position, some token] => do
      some (.unexpectedToken (← count? position) (← token.string?))
    | _ => none
  | "UnexpectedEnd" =>
    match content.fields? ["position"] with
    | some [some position] => (count? position).map .unexpectedEnd
    | _ => none
  | "InvalidFunctionName" =>
    match content.fields? ["position", "name"] with
    | some [some position, some name] => do
      some (.invalidFunctionName (← count? position) (← name.string?))
    | _ => none
  | "NestingTooDeep" =>
    match content.fields? ["limit"] with
    | some [some limit] => (count? limit).map .nestingTooDeep
    | _ => none
  | _ => none

def ofJson? (value : Value) : Option ExprError :=
  if value.unitTag? = some "EmptyExpression" then some .emptyExpression
  else match value.alternative? with
    | some (tag, some content) => ofAlternative? tag content
    | _ => none

end ExprError

namespace InvalidExpr

def toJson (invalid : InvalidExpr) : Value :=
  .record [("expression", .text invalid.expression), ("error", invalid.error.toJson)]

def ofJson? (value : Value) : Option InvalidExpr :=
  match value.fields? ["expression", "error"] with
  | some [some expression, some error] => do
    some ⟨← expression.string?, ← ExprError.ofJson? error⟩
  | _ => none

end InvalidExpr
end StreamPlan
