import StreamPlan.Decimal.Layout
import StreamPlan.Schema.FieldType

/-! Schemas: the named and typed fields of a record, in order. -/

set_option autoImplicit false

namespace StreamPlan

structure Field where
  name : String
  type : FieldType
  deriving DecidableEq, Repr

structure Schema where
  fields : List Field
  deriving DecidableEq, Repr

inductive SchemaError where
  -- The text is no data-structure document.
  | invalidDocument
  | duplicateField (name : String)
  | duplicateIndex (index : Nat) (first second : String)
  deriving DecidableEq, Repr

def SchemaError.message : SchemaError → String
  | .invalidDocument => "Invalid data structure document"
  | .duplicateField name => "Field `" ++ name ++ "` is declared more than once"
  | .duplicateIndex index first second =>
    "Fields `" ++ first ++ "` and `" ++ second ++ "` share the same index `" ++
      Decimal.natText index ++ "`"

namespace Schema

def names (schema : Schema) : List String := schema.fields.map (·.name)

def type? (schema : Schema) (name : String) : Option FieldType :=
  (schema.fields.find? (·.name == name)).map (·.type)

def contains (schema : Schema) (name : String) : Bool := (schema.type? name).isSome

def add (schema : Schema) (field : Field) : Except SchemaError Schema :=
  if schema.contains field.name then .error (.duplicateField field.name)
  else .ok ⟨schema.fields ++ [field]⟩

def ofFields (fields : List Field) : Except SchemaError Schema := fields.foldlM add ⟨[]⟩

def fieldToJson (field : Field) : Json.Value :=
  .record [("name", .text field.name), ("field_type", field.type.toJson)]

def fieldOfJson? (value : Json.Value) : Option Field :=
  match value.fields? ["name", "field_type"] with
  | some [some name, some type] => do some ⟨← name.string?, ← FieldType.ofJson? type⟩
  | _ => none

def toJson (schema : Schema) : Json.Value :=
  .record [("fields", .array (schema.fields.map fieldToJson))]

def ofJson? (value : Json.Value) : Option Schema :=
  match value.fields? ["fields"] with
  | some [some fields] => (fields.list? fieldOfJson?).map (⟨·⟩)
  | _ => none

end Schema
end StreamPlan
