import StreamPlan.Proofs.Aggregation.Json
import StreamPlan.Proofs.Expr.ErrorJson
import StreamPlan.Proofs.Pipeline.Config
import StreamPlan.Proofs.Schema.Json

/-! Everything beside expressions that is written as JSON is read back from its text:
configurations, aggregation rules, schemas, and the reasons for which expressions are refused. -/

set_option autoImplicit false

namespace StreamPlan

open Aggregation (Rule)
open Json (Value)
open Json.Value (TextReads)

theorem Config.textReads {config : Config}
    (small : ∀ limit ∈ config.depthLimit, limit < UInt64.size) :
    TextReads Config.ofJson? config.toJson config :=
  config.isWritten_toJson.textReads (ofJson?_toJson small)

theorem Config.ofDocument_eq_ok_iff {text : String} {config : Config} :
    ofDocument text = .ok config ↔ (Value.read? text).bind ofJson? = some config := by
  rw [ofDocument]
  cases (Value.read? text).bind ofJson? <;> simp

/-- What a document is read as does not change when it is written and read again. -/
theorem Config.textReads_of_ofDocument {text : String} {config : Config}
    (read : ofDocument text = .ok config) : TextReads Config.ofJson? config.toJson config := by
  obtain ⟨value, -, read⟩ := Option.bind_eq_some_iff.mp (ofDocument_eq_ok_iff.mp read)
  exact textReads (depthLimit_lt_of_ofJson? read)

theorem InvalidExpr.textReads {invalid : InvalidExpr}
    (small : ∀ n ∈ invalid.error.counts, n < UInt64.size) :
    TextReads InvalidExpr.ofJson? invalid.toJson invalid :=
  invalid.isWritten_toJson.textReads (ofJson?_toJson small)

/-- Numbers of 64 bits are all that is asked of the values. Of a configuration that comes from a
document nothing is asked. -/
theorem textReads_all :
    (∀ config : Config, (∀ limit ∈ config.depthLimit, limit < UInt64.size) →
      TextReads Config.ofJson? config.toJson config) ∧
    (∀ rule : Rule, TextReads Rule.ofJson? rule.toJson rule) ∧
    (∀ schema : Schema, TextReads Schema.ofJson? schema.toJson schema) ∧
    (∀ invalid : InvalidExpr, (∀ n ∈ invalid.error.counts, n < UInt64.size) →
      TextReads InvalidExpr.ofJson? invalid.toJson invalid) ∧
    ∀ text config, Config.ofDocument text = .ok config →
      Config.ofDocument config.toJson.compact = .ok config ∧
      Config.ofDocument (config.toJson.pretty 0) = .ok config := by
  refine ⟨fun config => Config.textReads, ?_, ?_, fun invalid => InvalidExpr.textReads, ?_⟩
  · intro rule
    exact rule.isWritten_toJson.textReads rule.ofJson?_toJson
  · intro schema
    exact schema.isWritten_toJson.textReads schema.ofJson?_toJson
  · intro text config read
    rw [Config.ofDocument_eq_ok_iff, Config.ofDocument_eq_ok_iff]
    exact Config.textReads_of_ofDocument read

/-- The greatest limit, characters with escapes, and a document with more sections than are read. -/
theorem textReads_all_greatest :
    let config : Config := ⟨["a\x00\"\\b"], some ⟨"", []⟩, some (2 ^ 64 - 1)⟩
    let invalid : InvalidExpr := ⟨"\n\x7f", .invalidFunctionName (2 ^ 64 - 1) "é😀"⟩
    let given : Config := ⟨["a", "b: f(a, 1)"], some ⟨"reduce", ["sum(b)"]⟩, some 7⟩
    let text := "\x7b\"input\": [1e999], \"processing\": \x7b\"rule\": \x7b\x7d, " ++
      "\"max_expression_depth\": 7, \"transformation\": [\"a\", \"b: f(a, 1)\"], " ++
      "\"aggregations\": \x7b\"operation_type\": \"reduce\", \"rule\": [\"sum(b)\"]\x7d\x7d, " ++
      "\"output\": \x7b\"max_expression_depth\": 1\x7d\x7d"
    TextReads Config.ofJson? config.toJson config ∧
      TextReads InvalidExpr.ofJson? invalid.toJson invalid ∧
      Config.ofDocument text = .ok given ∧
      Config.ofDocument given.toJson.compact = .ok given ∧
      Config.ofDocument (given.toJson.pretty 0) = .ok given := by
  intro config invalid given text
  obtain ⟨configs, -, -, errors, documents⟩ := textReads_all
  have read : Config.ofDocument text = .ok given := by decide +kernel
  refine ⟨configs config ?_, errors invalid ?_, read, documents text given read⟩
  · rintro limit ⟨⟩
    decide
  · simp [invalid, ExprError.counts]

end StreamPlan
