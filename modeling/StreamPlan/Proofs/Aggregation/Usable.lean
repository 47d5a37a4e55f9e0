import StreamPlan.Proofs.Aggregation.Shape

/-! The functions of a rule that a schema accepts. Only an aggregation that names no function goes
through the validator without one. A parsed rule has none such, but a rule that is read may. -/

set_option autoImplicit false

namespace StreamPlan.Aggregation

/-- The function of an entry, which accepts the type that the schema gives to its field. -/
structure Usable (schema : Schema) (entry : Entry) (function : Function) : Prop where
  isFunction : entry.function? = some function
  accepts : ∃ type, schema.type? entry.field = some type ∧ function.accepts type = true

/-- Every aggregation names a function, known or not. -/
def Rule.NamesFunctions (rule : Rule) : Prop :=
  ∀ entry ∈ rule.aggregations, entry.functionName.isSome = true

variable {rule : Rule} {schema : Schema}

namespace Fits

theorem exists_type? (fits : Fits rule schema) {entry : Entry} (member : entry ∈ rule.entries) :
    ∃ type, schema.type? entry.field = some type := by
  have known := (fits.fields entry.field).mp ⟨entry, member, rfl⟩
  obtain ⟨field, isField, named⟩ := List.mem_map.mp known
  apply Option.isSome_iff_exists.mp
  simpa [Schema.type?] using ⟨field, isField, named⟩

-- None of the passes leaves out a named function: an unknown one is listed, so this one is known;
-- the schema has its field; and a type that it refuses is a violation.
theorem usable (fits : Fits rule schema) {entry : Entry} (member : entry ∈ rule.aggregations)
    (named : entry.functionName.isSome = true) : ∃ function, Usable schema entry function := by
  obtain ⟨inside, aggregated⟩ := mem_aggregations.mp member
  obtain ⟨name, named⟩ := Option.isSome_iff_exists.mp named
  have listed := fits.functions entry inside aggregated name named
  have known : Function.ofName? name ≠ none := fun unknown => ofName?_eq_none_iff.mp unknown listed
  obtain ⟨function, found⟩ := Option.ne_none_iff_exists'.mp known
  have isFunction : entry.function? = some function := by
    simpa [Entry.function?, named] using found
  obtain ⟨type, typed⟩ := fits.exists_type? inside
  exact ⟨function, isFunction, type, typed,
    fits.types entry inside aggregated function type (function?_eq_some_iff.mp isFunction) typed⟩

end Fits

/-- Those entries that have a function have it in the order of the entries. -/
theorem forall₂_filterMap_function {entries : List Entry}
    (usable : ∀ entry ∈ entries, entry.functionName.isSome = true →
      ∃ function, Usable schema entry function) :
    List.Forall₂ (Usable schema) (entries.filter (·.functionName.isSome))
      (entries.filterMap Entry.function?) := by
  induction entries with
  | nil => exact .nil
  | cons entry rest ih =>
    obtain ⟨usableFirst, usableRest⟩ := List.forall_mem_cons.mp usable
    cases named : entry.functionName with
    | none =>
      have noFunction : entry.function? = none := by simp [Entry.function?, named]
      rw [List.filter_cons_of_neg (by simp [named]), List.filterMap_cons_none noFunction]
      exact ih usableRest
    | some name =>
      obtain ⟨function, first⟩ := usableFirst (by rw [named, Option.isSome_some])
      rw [List.filter_cons_of_pos (by simp [named]), List.filterMap_cons_some first.isFunction]
      exact .cons first (ih usableRest)

theorem Fits.forall₂_functions (fits : Fits rule schema) :
    List.Forall₂ (Usable schema) (rule.aggregations.filter (·.functionName.isSome))
      rule.functions :=
  forall₂_filterMap_function fun _ member => fits.usable member

theorem filter_namesFunctions_iff :
    rule.aggregations.filter (·.functionName.isSome) = rule.aggregations ↔ rule.NamesFunctions :=
  List.filter_eq_self

theorem Fits.length_functions_eq_iff (fits : Fits rule schema) :
    rule.functions.length = rule.aggregations.length ↔ rule.NamesFunctions := by
  rw [← fits.forall₂_functions.length_eq, List.length_filter_eq_length_iff]
  rfl

theorem Fits.forall₂_functions_iff (fits : Fits rule schema) :
    List.Forall₂ (Usable schema) rule.aggregations rule.functions ↔ rule.NamesFunctions := by
  constructor
  · intro usable
    exact fits.length_functions_eq_iff.mp usable.length_eq.symm
  · intro named
    have usable := fits.forall₂_functions
    rwa [filter_namesFunctions_iff.mpr named] at usable

theorem Entry.IsSpelled.isSome_functionName {entry : Entry} (spelled : entry.IsSpelled)
    (aggregated : entry.isKey = false) : entry.functionName.isSome = true := by
  cases spelled with
  | key => cases aggregated
  | aggregate => rfl

theorem Rule.IsShaped.namesFunctions (shaped : rule.IsShaped) : rule.NamesFunctions := by
  intro entry member
  obtain ⟨inside, aggregated⟩ := mem_aggregations.mp member
  cases shaped with
  | reduce spelled => exact (spelled entry inside).isSome_functionName aggregated
  | reduceByKey spelled => exact (spelled entry inside).isSome_functionName aggregated

/-- In a rule that a schema accepts, each aggregation that names a function has one that accepts
its field, and these are the functions of the rule. They are those of all aggregations exactly
where every aggregation names one, as in each rule that is parsed. -/
theorem validated_functions (valid : rule.validate schema = .ok ()) :
    List.Forall₂ (Usable schema) (rule.aggregations.filter (·.functionName.isSome))
        rule.functions ∧
      (List.Forall₂ (Usable schema) rule.aggregations rule.functions ↔ rule.NamesFunctions) ∧
      (rule.functions.length = rule.aggregations.length ↔ rule.NamesFunctions) ∧
      ∀ operation texts, Rule.parse operation texts = .ok rule → rule.NamesFunctions := by
  have fits := validate_eq_ok_iff.mp valid
  exact ⟨fits.forall₂_functions, fits.forall₂_functions_iff, fits.length_functions_eq_iff,
    fun _ _ parsed => (isShaped_of_parse parsed).namesFunctions⟩

theorem validated_functions_traffic :
    let schema : Schema := ⟨[⟨"host", .string⟩, ⟨"bytes", .long⟩, ⟨"time", .timestamp⟩]⟩
    let rule : Rule :=
      ⟨.reduceByKey, [.key "host", .aggregate "sum" "bytes", .aggregate "max" "time"]⟩
    rule.validate schema = .ok () ∧ rule.functions = [.sum, .max] ∧
      List.Forall₂ (Usable schema) rule.aggregations rule.functions := by
  intro schema rule
  have valid : rule.validate schema = .ok () := by
    refine validate_eq_ok_iff.mpr ⟨by decide, fun name => ?_, by decide, ?_⟩
    · simp [rule, schema, Schema.names, Entry.key, Entry.aggregate, eq_comm]
    · simp only [← typeViolation?_eq_none_iff]
      decide +kernel
  have parsed : Rule.parse "reduceByKey" ["key: host", "sum(bytes)", "max(time)"] = .ok rule := by
    decide +kernel
  obtain ⟨-, usable, -, names⟩ := validated_functions valid
  exact ⟨valid, by decide +kernel, usable.mpr (names _ _ parsed)⟩

/-- An aggregation that is read without a function is accepted, and has none. -/
theorem validate_unnamed_function :
    let text := "\x7b\"operation_type\":\"reduce\"," ++
      "\"rule\":[\x7b\"input_field\":\"a\",\"key\":false\x7d]\x7d"
    let schema : Schema := ⟨[⟨"a", .long⟩]⟩
    let rule : Rule := ⟨.reduce, [⟨none, "a", false⟩]⟩
    (Json.Value.read? text).bind Rule.ofJson? = some rule ∧
      rule.validate schema = .ok () ∧ rule.aggregations.length = 1 ∧ rule.functions = [] := by
  decide +kernel

end StreamPlan.Aggregation
