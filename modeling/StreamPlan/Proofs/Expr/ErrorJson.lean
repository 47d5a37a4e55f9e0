import StreamPlan.Expr.Json
import StreamPlan.Proofs.Json.Decode

/-! The reasons for which expressions are refused are read back from what they are written as, if
their counts, positions and limits have 64 bits. -/

set_option autoImplicit false

namespace StreamPlan

open Json (Value)

namespace ExprError

def counts : ExprError → List Nat
  | .unbalancedParentheses opening closing => [opening, closing]
  | .emptyExpression => []
  | .emptyArgument position => [position]
  | .unexpectedToken position _ => [position]
  | .unexpectedEnd position => [position]
  | .invalidFunctionName position _ => [position]
  | .nestingTooDeep limit => [limit]

theorem isWritten_toJson (error : ExprError) : error.toJson.IsWritten := by
  cases error with
  | emptyExpression => exact .text _
  | _ =>
    apply Value.isWritten_tagged
    apply Value.isWritten_record
    simp [Value.isWritten_nat, Value.IsWritten.text]

theorem ofJson?_toJson {error : ExprError} (small : ∀ n ∈ error.counts, n < UInt64.size) :
    ofJson? error.toJson = some error := by
  have count {n : Nat} (member : n ∈ error.counts) : count? (.nat n) = some n :=
    Value.natBelow?_nat (small n member)
  cases error <;>
    simp [counts] at count <;>
    simp [toJson, ofJson?, ofAlternative?, count, Value.unitTag?, Value.alternative?,
      Value.tagged, Value.record, Value.text, Value.fields?, Value.uniqueMember?, Value.string?]

end ExprError

namespace InvalidExpr

theorem isWritten_toJson (invalid : InvalidExpr) : invalid.toJson.IsWritten := by
  apply Value.isWritten_record
  simp [invalid.error.isWritten_toJson, Value.IsWritten.text]

theorem ofJson?_toJson {invalid : InvalidExpr}
    (small : ∀ n ∈ invalid.error.counts, n < UInt64.size) :
    ofJson? invalid.toJson = some invalid := by
  simp [toJson, ofJson?, Value.record, Value.fields?, Value.uniqueMember?, Value.string?,
    Value.text, ExprError.ofJson?_toJson small]

end InvalidExpr
end StreamPlan
