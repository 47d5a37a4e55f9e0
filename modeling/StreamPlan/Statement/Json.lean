import StreamPlan.Expr.Json
import StreamPlan.Statement.Item

set_option autoImplicit false

namespace StreamPlan.Item

open Json (Value)

def toJson : Item → Value
  | .field name => .tagged "Field" (.text name)
  | .derived name body =>
    .tagged "Transformation" (.record [("name", .text name), ("body", body.toJson)])

/-- Reads a column whose body has at most `bodyNesting` levels of arrays and objects. -/
def ofJson? (bodyNesting : Nat) (value : Value) : Option Item :=
  match value.alternative? with
  | some ("Field", some content) => content.string?.map .field
  | some ("Transformation", some content) =>
    match content.fields? ["name", "body"] with
    | some [some name, some body] => do
      some (.derived (← name.string?) (← Expr.ofJson? bodyNesting body))
    | _ => none
  | _ => none

def listToJson (items : List Item) : Value := .array (items.map toJson)

/-- Reads a list of columns with `outside` levels around it. A body has three more around it: the
list, the column and the record in it. -/
def listOfJson? (outside : Nat) (value : Value) : Option (List Item) :=
  value.list? (ofJson? (Value.nestingLimit - (outside + 3)))

end StreamPlan.Item
