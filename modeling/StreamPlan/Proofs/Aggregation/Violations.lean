import StreamPlan.Aggregation.Validation
import StreamPlan.Proofs.Text.Names

/-! What is wrong with a rule for a schema, said without the passes of the validator, and that the
validator reports this and nothing else. -/

set_option autoImplicit false

namespace StreamPlan.Aggregation

def Rule.Unsupported (rule : Rule) (name : String) : Prop :=
  ∃ entry ∈ rule.entries, entry.isKey = false ∧ entry.functionName = some name ∧
    name ∉ ["sum", "min", "max", "count"]

def Rule.Mismatched (rule : Rule) (schema : Schema) (name : String) : Prop :=
  ((∃ entry ∈ rule.entries, entry.field = name) ∧ ∀ field ∈ schema.fields, field.name ≠ name) ∨
    ((∃ field ∈ schema.fields, field.name = name) ∧ ∀ entry ∈ rule.entries, entry.field ≠ name)

def Rule.Repeated (rule : Rule) (name : String) : Prop :=
  2 ≤ rule.entries.countP fun entry => !entry.isKey && entry.field == name

/-- An aggregation has a known function, which does not accept the type of its field: that of the
first field of this name. -/
structure Mistyped (schema : Schema) (entry : Entry) (function : Function) : Prop where
  aggregated : entry.isKey = false
  known : entry.functionName = some function.name
  refused : ∃ before field after, schema.fields = before ++ field :: after ∧
    (∀ earlier ∈ before, earlier.name ≠ entry.field) ∧ field.name = entry.field ∧
      function.accepts field.type = false

inductive TypeViolations (schema : Schema) : List Entry → List RuleError → Prop where
  | nil : TypeViolations schema [] []
  | mistyped {entry : Entry} {function : Function} {rest : List Entry} {errors : List RuleError}
      (mistyped : Mistyped schema entry function) (others : TypeViolations schema rest errors) :
      TypeViolations schema (entry :: rest) (.incorrectFieldType entry.field function :: errors)
  | fitting {entry : Entry} {rest : List Entry} {errors : List RuleError}
      (fitting : ∀ function, ¬ Mistyped schema entry function)
      (others : TypeViolations schema rest errors) : TypeViolations schema (entry :: rest) errors

/-- What is wrong with a rule for a schema, in the order in which it is reported. An entry that is
wrong in several ways is found under each of them. -/
inductive Violates (rule : Rule) (schema : Schema) : List RuleError → Prop where
  | intro {unsupported mismatched repeated : List String} {mistyped : List RuleError}
      (functions : Names.Lists rule.Unsupported unsupported)
      (fields : Names.Lists (rule.Mismatched schema) mismatched)
      (aggregations : Names.Lists rule.Repeated repeated)
      (types : TypeViolations schema rule.entries mistyped) :
      Violates rule schema
        ((if unsupported = [] then [] else [.unsupportedFunctions unsupported]) ++
          (if mismatched = [] then [] else [.unknownOrUnusedFields mismatched]) ++
          repeated.map .alreadyAggregated ++ mistyped)

theorem mem_aggregations {rule : Rule} {entry : Entry} :
    entry ∈ rule.aggregations ↔ entry ∈ rule.entries ∧ entry.isKey = false := by
  simp [Rule.aggregations]

theorem ofName?_eq_some_iff {name : String} {function : Function} :
    Function.ofName? name = some function ↔ name = function.name := by
  constructor
  · intro found
    have same := List.find?_some found
    exact (beq_iff_eq.mp same).symm
  · rintro rfl
    exact Function.ofName?_name function

theorem ofName?_eq_none_iff {name : String} :
    Function.ofName? name = none ↔ name ∉ ["sum", "min", "max", "count"] := by
  rw [Option.eq_none_iff_forall_ne_some]
  simp only [ne_eq, ofName?_eq_some_iff]
  constructor
  · intro unknown member
    simp only [List.mem_cons, List.not_mem_nil, or_false] at member
    rcases member with rfl | rfl | rfl | rfl
    · exact unknown .sum rfl
    · exact unknown .min rfl
    · exact unknown .max rfl
    · exact unknown .count rfl
  · intro unlisted function same
    subst same
    cases function <;> simp [Function.name] at unlisted

section

variable {rule : Rule} {schema : Schema}

theorem lists_unsupportedNames : Names.Lists rule.Unsupported rule.unsupportedNames := by
  apply Names.lists_ofList
  intro name
  simp only [List.mem_filterMap, List.mem_filter, mem_aggregations, Rule.Unsupported]
  refine exists_congr fun entry => ?_
  rw [and_assoc, and_assoc, and_congr_right_iff, and_congr_right_iff]
  rintro - -
  constructor
  · rintro ⟨unknown, named⟩
    refine ⟨named, ofName?_eq_none_iff.mp ?_⟩
    simpa [Entry.function?, named] using unknown
  · rintro ⟨named, unlisted⟩
    refine ⟨?_, named⟩
    simpa [Entry.function?, named] using ofName?_eq_none_iff.mpr unlisted

theorem lists_mismatchedFields :
    Names.Lists (rule.Mismatched schema) (rule.mismatchedFields schema) := by
  apply Names.lists_ofList
  intro name
  simp [Rule.Mismatched, Schema.names]

theorem count_aggregated (name : String) :
    (rule.aggregations.map (·.field)).count name =
      rule.entries.countP fun entry => !entry.isKey && entry.field == name := by
  rw [Rule.aggregations, List.count, List.countP_map, List.countP_filter]
  simp [Bool.and_comm]

theorem lists_repeatedFields : Names.Lists rule.Repeated rule.repeatedFields := by
  have aggregated := @Names.lists_ofList _ (rule.aggregations.map (·.field)) fun _ => Iff.rfl
  refine ⟨aggregated.ascending.filter _, fun name => ?_⟩
  rw [Rule.repeatedFields, List.mem_filter, aggregated.mem_iff, decide_eq_true_eq, Rule.Repeated,
    ← count_aggregated]
  constructor
  · exact And.right
  · exact fun twice => ⟨List.count_pos_iff.mp (Nat.zero_lt_of_lt twice), twice⟩

theorem type?_eq_some_iff {name : String} {type : FieldType} :
    schema.type? name = some type ↔ ∃ before field after, schema.fields = before ++ field :: after ∧
      (∀ earlier ∈ before, earlier.name ≠ name) ∧ field.name = name ∧ field.type = type := by
  simp only [Schema.type?, Option.map_eq_some_iff, List.find?_eq_some_iff_append, beq_iff_eq,
    Bool.not_eq_true', beq_eq_false_iff_ne]
  constructor
  · rintro ⟨field, ⟨named, before, after, fields, earlier⟩, typed⟩
    exact ⟨before, field, after, fields, earlier, named, typed⟩
  · rintro ⟨before, field, after, fields, earlier, named, typed⟩
    exact ⟨field, ⟨named, before, after, fields, earlier⟩, typed⟩

theorem function?_eq_some_iff {entry : Entry} {function : Function} :
    entry.function? = some function ↔ entry.functionName = some function.name := by
  simp [Entry.function?, Option.bind_eq_some_iff, ofName?_eq_some_iff]

theorem mistyped_iff {entry : Entry} {function : Function} :
    Mistyped schema entry function ↔ entry.isKey = false ∧ entry.function? = some function ∧
      ∃ type, schema.type? entry.field = some type ∧ function.accepts type = false := by
  rw [function?_eq_some_iff]
  constructor
  · rintro ⟨aggregated, known, before, field, after, fields, earlier, named, refused⟩
    have typed := type?_eq_some_iff.mpr ⟨before, field, after, fields, earlier, named, rfl⟩
    exact ⟨aggregated, known, field.type, typed, refused⟩
  · rintro ⟨aggregated, known, type, typed, refused⟩
    obtain ⟨before, field, after, fields, earlier, named, rfl⟩ := type?_eq_some_iff.mp typed
    exact ⟨aggregated, known, before, field, after, fields, earlier, named, refused⟩

theorem typeViolation?_eq_some_iff {entry : Entry} {violation : RuleError}
    (aggregated : entry.isKey = false) :
    Rule.typeViolation? schema entry = some violation ↔
      ∃ function, Mistyped schema entry function ∧
        violation = .incorrectFieldType entry.field function := by
  simp only [mistyped_iff, aggregated, true_and, Rule.typeViolation?]
  cases entry.function? with
  | none => simp
  | some function =>
    cases schema.type? entry.field with
    | none => simp
    | some type =>
      cases accepts : function.accepts type with
      | true => simp [accepts]
      | false =>
        dsimp only
        rw [if_neg (by simp [accepts])]
        constructor
        · rintro ⟨⟩
          exact ⟨function, ⟨rfl, type, rfl, accepts⟩, rfl⟩
        · rintro ⟨function', ⟨same, -⟩, rfl⟩
          cases same
          rfl

theorem typeViolations_aggregations (entries : List Entry) :
    TypeViolations schema entries
      ((entries.filter (!·.isKey)).filterMap (Rule.typeViolation? schema)) := by
  induction entries with
  | nil => exact .nil
  | cons entry rest ih =>
    cases aggregated : entry.isKey with
    | true =>
      rw [List.filter_cons_of_neg (by simp [aggregated])]
      refine .fitting (fun function mistyped => ?_) ih
      rw [mistyped.aggregated] at aggregated
      cases aggregated
    | false =>
      have found (violation : RuleError) :=
        @typeViolation?_eq_some_iff schema entry violation aggregated
      rw [List.filter_cons_of_pos (by simp [aggregated])]
      cases checked : Rule.typeViolation? schema entry with
      | none =>
        rw [List.filterMap_cons_none checked]
        refine .fitting (fun function mistyped => ?_) ih
        rw [(found _).mpr ⟨function, mistyped, rfl⟩] at checked
        cases checked
      | some violation =>
        rw [List.filterMap_cons_some checked]
        obtain ⟨function, mistyped, rfl⟩ := (found violation).mp checked
        exact .mistyped mistyped ih

theorem Mistyped.unique {entry : Entry} {function function' : Function}
    (first : Mistyped schema entry function) (second : Mistyped schema entry function') :
    function = function' := by
  have known := (mistyped_iff.mp first).2.1
  rw [(mistyped_iff.mp second).2.1] at known
  exact (Option.some.inj known).symm

theorem TypeViolations.unique {entries : List Entry} {errors errors' : List RuleError}
    (first : TypeViolations schema entries errors)
    (second : TypeViolations schema entries errors') : errors = errors' := by
  induction first generalizing errors' with
  | nil =>
    cases second
    rfl
  | mistyped mistyped others ih =>
    cases second with
    | mistyped mistyped' others' => rw [mistyped.unique mistyped', ih others']
    | fitting fitting others' => exact absurd mistyped (fitting _)
  | fitting fitting others ih =>
    cases second with
    | mistyped mistyped others' => exact absurd mistyped (fitting _)
    | fitting fitting' others' => exact ih others'

theorem ofNames_eq (violation : List String → RuleError) (names : List String) :
    Rule.ofNames violation names = if names = [] then [] else [violation names] := by
  simp [Rule.ofNames]

theorem violates_iff {errors : List RuleError} :
    Violates rule schema errors ↔ errors = rule.violations schema := by
  rw [Rule.violations, ofNames_eq, ofNames_eq]
  have types : TypeViolations schema rule.entries _ := typeViolations_aggregations rule.entries
  constructor
  · rintro ⟨functions, fields, aggregations, types'⟩
    rw [functions.unique lists_unsupportedNames, fields.unique lists_mismatchedFields,
      aggregations.unique lists_repeatedFields, types'.unique types, Rule.aggregations]
  · rintro rfl
    exact .intro lists_unsupportedNames lists_mismatchedFields lists_repeatedFields types

end

/-- The violations of a rule are determined by the rule and the schema. They are added to what was
reported before; validation fails with all of them, and a check with the first. -/
theorem violations_exact (rule : Rule) (schema : Schema) :
    ∃ violations, (∀ errors, Violates rule schema errors ↔ errors = violations) ∧
      (∀ reported, Rule.report reported rule schema = reported ++ violations) ∧
      (rule.validate schema = .ok () ↔ violations = []) ∧
      (∀ errors, rule.validate schema = .error errors ↔ violations = errors ∧ errors ≠ []) ∧
      (rule.check schema = .ok () ↔ violations = []) ∧
      ∀ error, rule.check schema = .error error ↔ violations.head? = some error := by
  refine ⟨rule.violations schema, fun _ => violates_iff, fun _ => rfl, ?_⟩
  rw [Rule.validate, Rule.report, List.nil_append, Rule.check]
  cases rule.violations schema with
  | nil => simp
  | cons first rest => simp

example : Rule.validate
    ⟨.reduce, [.aggregate "sum" "b", .aggregate "avg" "b", .aggregate "max" "a", .key "c"]⟩
    ⟨[⟨"a", .string⟩, ⟨"b", .string⟩]⟩ =
      .error [.unsupportedFunctions ["avg"], .unknownOrUnusedFields ["c"], .alreadyAggregated "b",
        .incorrectFieldType "b" .sum, .incorrectFieldType "a" .max] := by
  cbv

end StreamPlan.Aggregation
