import StreamPlan.Proofs.Aggregation.Compile
import Mathlib.Data.List.Perm.Subperm
import Mathlib.Data.List.Nodup

/-! How often a compiled rule mentions the fields of its schema: every field, no field twice as an
aggregation, and each exactly once where the keys do not repeat a field. The keys themselves are
not looked at. -/

set_option autoImplicit false

namespace StreamPlan.Aggregation

namespace Rule

def fields (rule : Rule) : List String := rule.entries.map (·.field)

def aggregatedFields (rule : Rule) : List String := rule.aggregations.map (·.field)

structure KeysApart (rule : Rule) : Prop where
  distinct : rule.keys.Nodup
  notAggregated : ∀ key ∈ rule.keys, key ∉ rule.aggregatedFields

theorem fields_perm (rule : Rule) : rule.fields.Perm (rule.keys ++ rule.aggregatedFields) := by
  have split := List.filter_append_perm (·.isKey) rule.entries
  simpa [fields, keys, aggregatedFields, aggregations] using (split.map (·.field)).symm

-- Two entries of one field are two keys, a key and an aggregation, or two aggregations.
theorem nodup_fields_iff {rule : Rule} (once : rule.aggregatedFields.Nodup) :
    rule.fields.Nodup ↔ rule.KeysApart := by
  rw [rule.fields_perm.nodup_iff, List.nodup_append']
  constructor
  · rintro ⟨distinct, -, apart⟩
    exact ⟨distinct, fun key isKey aggregated => apart isKey aggregated⟩
  · rintro ⟨distinct, notAggregated⟩
    exact ⟨distinct, once, fun key isKey aggregated => notAggregated key isKey aggregated⟩

end Rule

namespace Fits

variable {rule : Rule} {schema : Schema}

theorem mem_fields_iff (fits : Fits rule schema) {name : String} :
    name ∈ rule.fields ↔ name ∈ schema.names := by
  rw [← fits.fields name, Rule.fields, List.mem_map]

theorem nodup_aggregatedFields (fits : Fits rule schema) : rule.aggregatedFields.Nodup := fits.once

theorem count_eq_one_iff (fits : Fits rule schema) :
    (∀ name ∈ schema.names, rule.fields.count name = 1) ↔ rule.KeysApart := by
  rw [← Rule.nodup_fields_iff fits.nodup_aggregatedFields]
  constructor
  · intro single
    rw [List.nodup_iff_count_le_one]
    intro name
    by_cases member : name ∈ rule.fields
    · exact (single name (fits.mem_fields_iff.mp member)).le
    · exact (List.count_eq_zero.mpr member).trans_le (Nat.zero_le 1)
  · intro distinct name known
    exact List.count_eq_one_of_mem distinct (fits.mem_fields_iff.mpr known)

theorem length_eq_iff (fits : Fits rule schema) (unique : schema.names.Nodup) :
    rule.entries.length = schema.fields.length ↔ rule.KeysApart := by
  have entries : rule.fields.length = rule.entries.length := List.length_map _
  have columns : schema.names.length = schema.fields.length := List.length_map _
  -- the names of the schema are some of the entries' fields, and all of them if the lengths agree
  have within : schema.names.Subperm rule.fields :=
    List.subperm_of_subset unique fun name known => fits.mem_fields_iff.mpr known
  rw [← Rule.nodup_fields_iff fits.nodup_aggregatedFields, ← entries, ← columns]
  constructor
  · intro same
    exact (within.perm_of_length_le same.le).nodup_iff.mp unique
  · intro distinct
    have same := (List.perm_ext_iff_of_nodup distinct unique).mpr fun _ => fits.mem_fields_iff
    exact same.length_eq

end Fits

theorem fits_of_compile {operation : String} {texts : List String} {schema : Schema} {rule : Rule}
    (compiled : Rule.compile operation texts schema = .ok rule) : Fits rule schema := by
  simp only [Rule.compile, bind_eq_ok_iff, check_eq_ok_iff] at compiled
  obtain ⟨rule', -, _, fits, same⟩ := compiled
  cases same
  exact fits

/-- The entries of a compiled rule mention exactly the fields of the schema, and none as two
aggregations. Each field has one entry, and the rule as many entries as the schema fields, exactly
where no field is a key twice or both a key and aggregated. -/
theorem compiled_partition_iff {operation : String} {texts : List String} {schema : Schema}
    {rule : Rule} (compiled : Rule.compile operation texts schema = .ok rule) :
    (∀ name, name ∈ rule.fields ↔ name ∈ schema.names) ∧
    (∀ name, rule.aggregatedFields.count name ≤ 1) ∧
    ((∀ name ∈ schema.names, rule.fields.count name = 1) ↔ rule.KeysApart) ∧
    (schema.names.Nodup → (rule.entries.length = schema.fields.length ↔ rule.KeysApart)) := by
  have fits := fits_of_compile compiled
  exact ⟨fun _ => fits.mem_fields_iff, List.nodup_iff_count_le_one.mp fits.nodup_aggregatedFields,
    fits.count_eq_one_iff, fits.length_eq_iff⟩

theorem compiled_partition_traffic :
    let schema : Schema := ⟨[⟨"host", .string⟩, ⟨"port", .integer⟩, ⟨"bytes", .long⟩]⟩
    let rule : Rule := ⟨.reduceByKey, [.aggregate "sum" "bytes", .key "host", .key "port"]⟩
    Rule.compile "reduceByKey" ["sum(bytes)", "key: (host, port)"] schema = .ok rule ∧
      rule.KeysApart ∧ (∀ name ∈ schema.names, rule.fields.count name = 1) ∧
      rule.entries.length = schema.fields.length := by
  intro schema rule
  have compiled : Rule.compile "reduceByKey" ["sum(bytes)", "key: (host, port)"] schema =
      .ok rule := by decide +kernel
  have apart : rule.KeysApart := ⟨by decide +kernel, by decide +kernel⟩
  have unique : schema.names.Nodup := by decide +kernel
  obtain ⟨-, -, single, length⟩ := compiled_partition_iff compiled
  exact ⟨compiled, apart, single.mpr apart, (length unique).mpr apart⟩

/-- A key is repeated, a key is aggregated, and a schema repeats a name. -/
theorem compile_not_partition :
    (Rule.compile "reduceByKey" ["key: (a, a)"] ⟨[⟨"a", .long⟩]⟩ =
        .ok ⟨.reduceByKey, [.key "a", .key "a"]⟩ ∧
      Rule.fields ⟨.reduceByKey, [.key "a", .key "a"]⟩ = ["a", "a"]) ∧
    (Rule.compile "reduceByKey" ["key: a", "sum(a)"] ⟨[⟨"a", .long⟩]⟩ =
        .ok ⟨.reduceByKey, [.key "a", .aggregate "sum" "a"]⟩ ∧
      Rule.fields ⟨.reduceByKey, [.key "a", .aggregate "sum" "a"]⟩ = ["a", "a"]) ∧
    Rule.compile "reduce" ["sum(a)"] ⟨[⟨"a", .long⟩, ⟨"a", .long⟩]⟩ =
      .ok ⟨.reduce, [.aggregate "sum" "a"]⟩ := by
  decide +kernel

end StreamPlan.Aggregation
