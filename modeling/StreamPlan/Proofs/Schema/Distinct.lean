import Mathlib.Data.Finset.Card
import StreamPlan.Proofs.Except
import StreamPlan.Proofs.Schema.Json
import StreamPlan.Schema.Document

/-! Which schemas have distinct field names. Adding a field checks its name against those before
it, so the schemas made of fields are exactly these, and schemas of documents are made of fields.
Reading a written schema checks nothing. -/

set_option autoImplicit false

namespace StreamPlan.Schema

open Json (Value)

variable {schema : Schema}

theorem type?_isSome_iff {name : String} :
    (schema.type? name).isSome = true ↔ name ∈ schema.names := by
  simp [type?, names]

theorem add_eq_ok_iff {field : Field} {longer : Schema} :
    schema.add field = .ok longer ↔
      field.name ∉ schema.names ∧ longer = ⟨schema.fields ++ [field]⟩ := by
  rw [← type?_isSome_iff, add, contains]
  split
  · rename_i taken
    simp [taken]
  · rename_i free
    simp [free, eq_comm]

theorem names_append (fields more : List Field) :
    names ⟨fields ++ more⟩ = names ⟨fields⟩ ++ more.map (·.name) := List.map_append

-- What one step keeps: the names so far stay distinct exactly if the new one is not among them.
theorem nodup_names_append_singleton_iff {field : Field} :
    (names ⟨schema.fields ++ [field]⟩).Nodup ↔ schema.names.Nodup ∧ field.name ∉ schema.names := by
  rw [names_append, List.map_singleton, ← List.concat_eq_append, List.nodup_concat, and_comm]

theorem foldlM_add_eq_ok_iff {fields : List Field} {longer : Schema}
    (distinct : schema.names.Nodup) :
    fields.foldlM add schema = .ok longer ↔
      longer = ⟨schema.fields ++ fields⟩ ∧ longer.names.Nodup := by
  induction fields generalizing schema with
  | nil =>
    rw [List.foldlM_nil, List.append_nil]
    constructor
    · rintro ⟨⟩
      exact ⟨rfl, distinct⟩
    · rintro ⟨rfl, -⟩
      rfl
  | cons field rest ih =>
    simp only [List.foldlM_cons, bind_eq_ok_iff, add_eq_ok_iff]
    constructor
    · rintro ⟨next, ⟨free, rfl⟩, added⟩
      obtain ⟨same, all⟩ := (ih (nodup_names_append_singleton_iff.mpr ⟨distinct, free⟩)).mp added
      exact ⟨by simpa using same, all⟩
    · rintro ⟨same, all⟩
      rw [List.append_cons] at same
      have front : (names ⟨schema.fields ++ [field]⟩).Nodup := by
        rw [same, names_append] at all
        exact all.of_append_left
      have free := (nodup_names_append_singleton_iff.mp front).2
      exact ⟨_, ⟨free, rfl⟩, (ih front).mpr ⟨same, all⟩⟩

theorem ofFields_eq_ok_iff {fields : List Field} :
    ofFields fields = .ok schema ↔ schema = ⟨fields⟩ ∧ schema.names.Nodup :=
  foldlM_add_eq_ok_iff List.nodup_nil

theorem exists_ofFields_iff : (∃ fields, ofFields fields = .ok schema) ↔ schema.names.Nodup := by
  simp only [ofFields_eq_ok_iff]
  constructor
  · rintro ⟨fields, -, distinct⟩
    exact distinct
  · intro distinct
    exact ⟨schema.fields, rfl, distinct⟩

theorem nodup_names_of_ofDocument {text : String} (made : ofDocument text = .ok schema) :
    schema.names.Nodup := by
  unfold ofDocument at made
  split at made
  · obtain ⟨placed, -, made⟩ := bind_eq_ok_iff.mp made
    exact exists_ofFields_iff.mp ⟨_, made⟩
  · cases made

theorem length_eq_card_iff : schema.fields.length = schema.names.toFinset.card ↔
    schema.names.Nodup := by
  rw [List.card_toFinset, ← List.dedup_eq_self, show schema.fields.length = schema.names.length from
    (List.length_map _).symm]
  constructor
  · intro same
    exact (List.dedup_sublist schema.names).eq_of_length same.symm
  · intro same
    rw [same]

/-- Where names are distinct a look-up finds the one field of the name. -/
theorem type?_eq_some_iff_mem (distinct : schema.names.Nodup) {name : String} {type : FieldType} :
    schema.type? name = some type ↔ ⟨name, type⟩ ∈ schema.fields := by
  rw [type?, Option.map_eq_some_iff]
  constructor
  · rintro ⟨field, found, rfl⟩
    have named : field.name = name := by simpa using List.find?_some found
    rw [← named]
    exact List.mem_of_find?_eq_some found
  · intro member
    have some : (schema.fields.find? (·.name == name)).isSome = true :=
      List.find?_isSome.mpr ⟨_, member, beq_self_eq_true name⟩
    obtain ⟨field, found⟩ := Option.isSome_iff_exists.mp some
    have named : field.name = name := by simpa using List.find?_some found
    have same : field = ⟨name, type⟩ :=
      List.inj_on_of_nodup_map distinct (List.mem_of_find?_eq_some found) member named
    exact ⟨field, found, by rw [same]⟩

/-- The schemas made of fields are those with distinct names, and schemas of documents are among
them. A schema that is written and read is the one that was written, whether its names are distinct
or not. Distinct names are what makes the number of fields that of names, and a look-up by name the
type of the one field. -/
theorem distinct_names (schema : Schema) :
    ((∃ fields, ofFields fields = .ok schema) ↔ schema.names.Nodup) ∧
    ((∃ text, ofDocument text = .ok schema) → schema.names.Nodup) ∧
    (Value.read? schema.toJson.compact).bind ofJson? = some schema ∧
    (schema.fields.length = schema.names.toFinset.card ↔ schema.names.Nodup) ∧
    (schema.names.Nodup → ∀ name type,
      schema.type? name = some type ↔ ⟨name, type⟩ ∈ schema.fields) := by
  refine ⟨exists_ofFields_iff, ?_, schema.readBack_compact, length_eq_card_iff, ?_⟩
  · rintro ⟨text, made⟩
    exact nodup_names_of_ofDocument made
  · intro distinct name type
    exact type?_eq_some_iff_mem distinct

theorem distinct_names_document :
    let text := "\x7b\"bytes\":\x7b\"index\":7,\"type\":\"LongType\"\x7d," ++
      "\"host\":\x7b\"index\":2,\"type\":\"StringType\"\x7d\x7d"
    let schema : Schema := ⟨[⟨"host", .string⟩, ⟨"bytes", .long⟩]⟩
    ofDocument text = .ok schema ∧ schema.names.Nodup ∧ schema.type? "bytes" = some .long := by
  intro text schema
  have made : ofDocument text = .ok schema := by decide +kernel
  obtain ⟨-, fromDocument, -, -, lookup⟩ := distinct_names schema
  have distinct := fromDocument ⟨_, made⟩
  exact ⟨made, distinct, (lookup distinct "bytes" .long).mpr (by simp [schema])⟩

/-- A written schema with a repeated name is read as it stands, and a look-up finds the first. -/
theorem repeated_name_read :
    let text := "\x7b\"fields\":[\x7b\"name\":\"a\",\"field_type\":\"LongType\"\x7d," ++
      "\x7b\"name\":\"a\",\"field_type\":\"StringType\"\x7d]\x7d"
    let schema : Schema := ⟨[⟨"a", .long⟩, ⟨"a", .string⟩]⟩
    (Value.read? text).bind ofJson? = some schema ∧
      ¬ schema.names.Nodup ∧ schema.type? "a" = some .long ∧
      schema.fields.length = 2 ∧ schema.names.toFinset.card = 1 := by
  decide +kernel

end StreamPlan.Schema
