import StreamPlan.Statement.Item
import StreamPlan.Text.Quoted

/-! The structure of an output column on one line, for journals: constructors with their content,
records with the names of their fields, text in double quotes. -/

set_option autoImplicit false

namespace StreamPlan

def dumped (constructor content : String) : String := constructor ++ "(" ++ content ++ ")"

def dumpedRecord (name : String) (fields : List (String × String)) : String :=
  name ++ " \x7b " ++ ", ".intercalate (fields.map fun (field, value) => field ++ ": " ++ value) ++
    " \x7d"

def Literal.dump : Literal → String
  | .bool value => dumped "Bool" (if value then "true" else "false")
  | .int value => dumped "Int" (Decimal.intText value.toInt)
  | .float value => dumped "Float" (floatText value)
  | .str text => dumped "Str" (Text.quoted text)
  | .identifier name => dumped "Identifier" (Text.quoted name)

namespace Expr

mutual

def dump : Expr → String
  | .literal value => dumped "Literal" value.dump
  | .call operation arguments =>
    dumped "Call" (dumpedRecord "SyntaxTree"
      [("operation", Text.quoted operation),
       ("children", "[" ++ ", ".intercalate (dumps arguments) ++ "]")])
termination_by structural node => node

def dumps : List Expr → List String
  | [] => []
  | node :: rest => dump node :: dumps rest
termination_by structural nodes => nodes

end

end Expr

def Item.dump : Item → String
  | .field name => dumped "Field" (Text.quoted name)
  | .derived name body =>
    dumped "Transformation" (dumpedRecord "FieldTransformation"
      [("name", Text.quoted name), ("body", body.dump)])

end StreamPlan
