import StreamPlan.Aggregation.Rule
import StreamPlan.Proofs.Json.Decode

set_option autoImplicit false

namespace StreamPlan.Aggregation

open Json (Value)

namespace Entry

theorem isWritten_toJson (entry : Entry) : entry.toJson.IsWritten := by
  apply Value.isWritten_record
  cases entry.functionName <;> simp [Value.IsWritten.text, Value.IsWritten.bool]

theorem nesting_toJson (entry : Entry) : entry.toJson.nesting = 1 := by
  cases functionName : entry.functionName <;>
    simp [toJson, functionName, Value.record, Value.nesting, Value.nestingMembers]

theorem ofJson?_toJson (entry : Entry) : ofJson? entry.toJson = some entry := by
  obtain ⟨functionName, field, isKey⟩ := entry
  cases functionName <;>
    simp [toJson, ofJson?, Value.record, Value.fields?, Value.uniqueMember?, Value.nullable?,
      Value.string?, Value.text, Value.bool?]

end Entry

theorem Operation.ofJson?_toJson (operation : Operation) :
    Operation.ofJson? operation.toJson = some operation := by
  rw [Operation.ofJson?, Operation.toJson]
  exact Operation.ofName?_name operation

namespace Rule

theorem isWritten_toJson (rule : Rule) : rule.toJson.IsWritten := by
  have entries : (Value.array (rule.entries.map Entry.toJson)).IsWritten :=
    Value.isWritten_array_map fun entry _ => entry.isWritten_toJson
  apply Value.isWritten_record
  simp [entries, Operation.toJson, Value.IsWritten.text]

theorem nesting_toJson_le (rule : Rule) : rule.toJson.nesting ≤ 3 := by
  have entries : Value.nestingItems (rule.entries.map Entry.toJson) ≤ 1 := by
    rw [Value.nestingItems_le_iff, List.forall_mem_map]
    exact fun entry _ => entry.nesting_toJson.le
  simp [toJson, Operation.toJson, Value.record, Value.nesting, Value.nestingMembers]
  omega

theorem ofJson?_toJson (rule : Rule) : ofJson? rule.toJson = some rule := by
  have entries : (Value.array (rule.entries.map Entry.toJson)).list? Entry.ofJson? =
      some rule.entries :=
    Value.list?_array_map fun entry _ => entry.ofJson?_toJson
  simp [toJson, ofJson?, Value.record, Value.fields?, Value.uniqueMember?, entries,
    Operation.ofJson?_toJson]

end Rule
end StreamPlan.Aggregation
