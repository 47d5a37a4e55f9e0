import StreamPlan.Expr.Parser
import StreamPlan.Statement.Item

/-! Statements to output columns. A statement is a field name, or a name and an expression with a
colon between them; the first colon counts. -/

set_option autoImplicit false

namespace StreamPlan.Statement

/-- The output column of a statement, which has no blanks at its ends and is not empty. -/
def compileTrimmed (limit : Nat) (statement : String) : Except StatementError Item :=
  match statement.toList.dropWhile (· ≠ ':') with
  | [] => .ok (.field statement)
  | _ :: after =>
    let name := Text.trim (String.ofList (statement.toList.takeWhile (· ≠ ':')))
    let body := Text.trim (String.ofList after)
    if name.isEmpty then .error (.missingFieldName statement)
    else match Expr.read limit body with
      | .ok node => .ok (.derived name node)
      | .error cause => .error (.expression name cause)

def compile (limit : Nat) (statement : String) : Except StatementError (Option Item) :=
  if Text.isAllBlank statement then .ok none
  else (compileTrimmed limit (Text.trim statement)).map some

/-- The output columns of a list of statements, in order; the first failure ends the work. -/
def compileAll (limit : Nat) (statements : List String) : Except StatementError (List Item) :=
  statements.filterMapM (compile limit)

def compiledBefore (limit : Nat) : List String → List Item
  | [] => []
  | statement :: rest =>
    match compile limit statement with
    | .ok item => item.toList ++ compiledBefore limit rest
    | .error _ => []

end StreamPlan.Statement
