import StreamPlan.Pipeline.Plan
import StreamPlan.Proofs.Json.Decode

/-! Configurations are read back from what they are written as: what is left out where it is absent
is absent again. A configuration that was read from a document has a limit of 64 bits, so that this
holds of it whatever else the document has. -/

set_option autoImplicit false

namespace StreamPlan

open Json (Value)

theorem isWritten_texts (texts : List String) :
    (Value.array (texts.map Value.text)).IsWritten :=
  Value.isWritten_array_map fun text _ => .text text

theorem list?_texts (texts : List String) :
    (Value.array (texts.map Value.text)).list? Value.string? = some texts :=
  Value.list?_array_map fun _ _ => rfl

namespace AggregationConfig

theorem isWritten_toJson (config : AggregationConfig) : config.toJson.IsWritten := by
  apply Value.isWritten_record
  simp [isWritten_texts, Value.IsWritten.text]

theorem ofJson?_toJson (config : AggregationConfig) : ofJson? config.toJson = some config := by
  have fields : config.toJson.fields? ["operation_type", "rule"] =
      some [some (.text config.operation), some (.array (config.entries.map Value.text))] := by
    simp [toJson, Value.record, Value.fields?, Value.uniqueMember?]
  rw [ofJson?, fields]
  dsimp only
  rw [Option.getD_some, list?_texts]
  rfl

end AggregationConfig

namespace Config

def processing (config : Config) : Value :=
  .record (("transformation", .array (config.statements.map Value.text)) ::
    ((config.aggregation.toList.map fun given => ("aggregations", given.toJson)) ++
      config.depthLimit.toList.map fun limit => ("max_expression_depth", Value.nat limit)))

theorem toJson_eq (config : Config) :
    config.toJson = .record [("processing", config.processing)] := rfl

theorem isWritten_toJson (config : Config) : config.toJson.IsWritten := by
  have processing : config.processing.IsWritten := by
    apply Value.isWritten_record
    cases config.aggregation <;> cases config.depthLimit <;>
      simp [isWritten_texts, AggregationConfig.isWritten_toJson, Value.isWritten_nat]
  rw [toJson_eq]
  apply Value.isWritten_record
  simpa using processing

theorem fields?_processing (config : Config) :
    config.processing.fields? ["transformation", "aggregations", "max_expression_depth"] =
      some [some (.array (config.statements.map Value.text)),
        config.aggregation.map AggregationConfig.toJson, config.depthLimit.map Value.nat] := by
  cases aggregation : config.aggregation <;> cases depthLimit : config.depthLimit <;>
    simp [processing, aggregation, depthLimit, Value.record, Value.fields?, Value.uniqueMember?]

theorem nullable?_aggregation (aggregation : Option AggregationConfig) :
    ((aggregation.map AggregationConfig.toJson).getD .null).nullable? AggregationConfig.ofJson? =
      some aggregation := by
  cases aggregation with
  | none => rfl
  | some given => exact congrArg (Option.map some) given.ofJson?_toJson

theorem nullable?_depthLimit {depthLimit : Option Nat}
    (small : ∀ limit ∈ depthLimit, limit < UInt64.size) :
    ((depthLimit.map Value.nat).getD .null).nullable? (Value.natBelow? UInt64.size) =
      some depthLimit := by
  cases depthLimit with
  | none => rfl
  | some limit => exact congrArg (Option.map some) (Value.natBelow?_nat (small limit rfl))

theorem ofJson?_toJson {config : Config}
    (small : ∀ limit ∈ config.depthLimit, limit < UInt64.size) :
    ofJson? config.toJson = some config := by
  have fields : config.toJson.fields? ["processing"] = some [some config.processing] := by
    simp [toJson_eq, Value.record, Value.fields?, Value.uniqueMember?]
  rw [ofJson?, fields]
  dsimp only
  rw [ofProcessing?, fields?_processing]
  dsimp only
  rw [Option.getD_some, list?_texts, nullable?_aggregation, nullable?_depthLimit small]
  rfl

theorem depthLimit_lt_of_ofJson? {value : Value} {config : Config}
    (read : ofJson? value = some config) : ∀ limit ∈ config.depthLimit, limit < UInt64.size := by
  unfold ofJson? at read
  split at read
  · rename_i processing _
    unfold ofProcessing? at read
    split at read
    · simp only [Option.bind_eq_bind, Option.bind_eq_some_iff] at read
      obtain ⟨statements, -, aggregation, -, depthLimit, limited, same⟩ := read
      cases same
      rintro limit ⟨⟩
      unfold Value.nullable? at limited
      split at limited
      · cases limited
      · obtain ⟨limit', below, same⟩ := Option.map_eq_some_iff.mp limited
        cases same
        exact Value.lt_of_natBelow? below
    · cases read
  · cases read
    exact nofun
  · cases read

end Config
end StreamPlan
