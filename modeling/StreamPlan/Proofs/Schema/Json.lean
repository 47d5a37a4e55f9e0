import StreamPlan.Proofs.Json.Decode
import StreamPlan.Schema.Basic

set_option autoImplicit false

namespace StreamPlan

open Json (Value)

theorem FieldType.ofJson?_toJson (type : FieldType) : ofJson? type.toJson = some type :=
  ofName?_name type

namespace Schema

theorem isWritten_fieldToJson (field : Field) : (fieldToJson field).IsWritten := by
  apply Value.isWritten_record
  simp [FieldType.toJson, Value.IsWritten.text]

theorem fieldOfJson?_fieldToJson (field : Field) :
    fieldOfJson? (fieldToJson field) = some field := by
  simp [fieldToJson, fieldOfJson?, Value.record, Value.fields?, Value.uniqueMember?,
    Value.string?, Value.text, FieldType.ofJson?_toJson]

theorem isWritten_toJson (schema : Schema) : schema.toJson.IsWritten := by
  have fields : (Value.array (schema.fields.map fieldToJson)).IsWritten :=
    Value.isWritten_array_map fun field _ => isWritten_fieldToJson field
  apply Value.isWritten_record
  simpa using fields

theorem ofJson?_toJson (schema : Schema) : ofJson? schema.toJson = some schema := by
  have fields : (Value.array (schema.fields.map fieldToJson)).list? fieldOfJson? =
      some schema.fields :=
    Value.list?_array_map fun field _ => fieldOfJson?_fieldToJson field
  simp [toJson, ofJson?, Value.record, Value.fields?, Value.uniqueMember?, fields]

theorem readBack_compact (schema : Schema) :
    (Value.read? schema.toJson.compact).bind ofJson? = some schema := by
  rw [Value.read?_compact schema.isWritten_toJson, Option.bind_some, ofJson?_toJson]

end Schema
end StreamPlan
