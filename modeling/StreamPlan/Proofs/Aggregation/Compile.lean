import StreamPlan.Proofs.Aggregation.Entry
import StreamPlan.Proofs.Aggregation.Violations
import StreamPlan.Proofs.Except

/-! Which operations and entries compile to which rule for a schema, from the characters of the
entries to the types of the fields. -/

set_option autoImplicit false

namespace StreamPlan.Aggregation

open Text (isBlank isWordChar trim)

structure Fits (rule : Rule) (schema : Schema) : Prop where
  functions : ∀ entry ∈ rule.entries, entry.isKey = false →
    ∀ name ∈ entry.functionName, name ∈ ["sum", "min", "max", "count"]
  fields : ∀ name, (∃ entry ∈ rule.entries, entry.field = name) ↔ name ∈ schema.names
  once : ((rule.entries.filter (!·.isKey)).map (·.field)).Nodup
  types : ∀ entry ∈ rule.entries, entry.isKey = false → ∀ (function : Function) (type : FieldType),
    entry.functionName = some function.name → schema.type? entry.field = some type →
      function.accepts type = true

theorem unsupportedNames_eq_nil_iff {rule : Rule} :
    rule.unsupportedNames = [] ↔ ∀ entry ∈ rule.entries, entry.isKey = false →
      ∀ name ∈ entry.functionName, name ∈ ["sum", "min", "max", "count"] := by
  rw [lists_unsupportedNames.eq_nil_iff]
  constructor
  · intro supported entry member aggregated name named
    by_contra unlisted
    exact supported name ⟨entry, member, aggregated, named, unlisted⟩
  · rintro supported name ⟨entry, member, aggregated, named, unlisted⟩
    exact unlisted (supported entry member aggregated name named)

theorem mismatchedFields_eq_nil_iff {rule : Rule} {schema : Schema} :
    rule.mismatchedFields schema = [] ↔
      ∀ name, (∃ entry ∈ rule.entries, entry.field = name) ↔ name ∈ schema.names := by
  rw [Rule.mismatchedFields, Names.difference_eq_nil_iff]
  simp only [List.mem_map]

theorem repeatedFields_eq_nil_iff {rule : Rule} :
    rule.repeatedFields = [] ↔ ((rule.entries.filter (!·.isKey)).map (·.field)).Nodup := by
  rw [lists_repeatedFields.eq_nil_iff, List.nodup_iff_count]
  refine forall_congr' fun name => ?_
  rw [Rule.Repeated, ← count_aggregated, Rule.aggregations]
  exact Nat.not_lt

theorem typeViolation?_eq_none_iff {schema : Schema} {entry : Entry} :
    Rule.typeViolation? schema entry = none ↔ ∀ (function : Function) (type : FieldType),
      entry.functionName = some function.name → schema.type? entry.field = some type →
        function.accepts type = true := by
  simp only [← function?_eq_some_iff, Rule.typeViolation?]
  cases entry.function? with
  | none => simp
  | some function =>
    cases schema.type? entry.field with
    | none => simp
    | some type => cases accepts : function.accepts type <;> simp [accepts]

theorem ofNames_eq_nil_iff {violation : List String → RuleError} {names : List String} :
    Rule.ofNames violation names = [] ↔ names = [] := by
  cases names <;> simp [Rule.ofNames]

theorem violations_eq_nil_iff {rule : Rule} {schema : Schema} :
    rule.violations schema = [] ↔ Fits rule schema := by
  simp only [Rule.violations, List.append_eq_nil_iff, ofNames_eq_nil_iff, List.map_eq_nil_iff,
    unsupportedNames_eq_nil_iff, mismatchedFields_eq_nil_iff, repeatedFields_eq_nil_iff,
    List.filterMap_eq_nil_iff, mem_aggregations, typeViolation?_eq_none_iff, and_imp]
  constructor
  · rintro ⟨⟨⟨functions, fields⟩, once⟩, types⟩
    exact ⟨functions, fields, once, types⟩
  · rintro ⟨functions, fields, once, types⟩
    exact ⟨⟨⟨functions, fields⟩, once⟩, types⟩

theorem check_eq_ok_iff {rule : Rule} {schema : Schema} {done : Unit} :
    rule.check schema = .ok done ↔ Fits rule schema := by
  rw [← violations_eq_nil_iff, Rule.check]
  cases rule.violations schema <;> simp

theorem validate_eq_ok_iff {rule : Rule} {schema : Schema} {done : Unit} :
    rule.validate schema = .ok done ↔ Fits rule schema := by
  rw [← violations_eq_nil_iff, Rule.validate, Rule.report, List.nil_append]
  cases rule.violations schema <;> simp

theorem operationOfName?_eq_some_iff {text : String} {operation : Operation} :
    Operation.ofName? text = some operation ↔ text = operation.name := by
  constructor
  · intro found
    have same := List.find?_some found
    exact (beq_iff_eq.mp same).symm
  · rintro rfl
    exact Operation.ofName?_name operation

theorem ruleOperation_eq_ok_iff {text : String} {operation : Operation} :
    ruleOperation text = .ok operation ↔
      (trim text = "reduce" ∧ operation = .reduce) ∨
        (trim text = "reduceByKey" ∧ operation = .reduceByKey) := by
  have reduce := @operationOfName?_eq_some_iff (trim text) .reduce
  have reduceByKey := @operationOfName?_eq_some_iff (trim text) .reduceByKey
  rw [← show Operation.reduce.name = "reduce" from rfl,
    ← show Operation.reduceByKey.name = "reduceByKey" from rfl, ← reduce, ← reduceByKey,
    ruleOperation]
  cases Operation.ofName? (trim text) with
  | none => simp
  | some found => cases found <;> simp [eq_comm]

theorem checkDesignators_eq_ok_iff {operation : Operation} {count : Nat} {done : Unit} :
    checkDesignators operation count = .ok done ↔ count = designatorCount operation := by
  unfold checkDesignators
  split
  · simp
    omega
  split
  · simp
    omega
  · simp
    omega

def AllowedChar (c : Char) : Prop :=
  isWordChar c = true ∨ isBlank c = true ∨ c = '(' ∨ c = ')' ∨ c = ',' ∨ c = ':'

theorem isEntryChar_iff {c : Char} : isEntryChar c = true ↔ AllowedChar c := by
  simp [isEntryChar, AllowedChar, or_assoc]

/-- The texts spell out the rule, with no key designator for `reduce` and one for
`reduceByKey`. -/
structure SpellsOut (operation : String) (texts : List String) (rule : Rule) : Prop where
  characters : ∀ text ∈ texts, ∀ c ∈ text.toList, AllowedChar c
  operation : (trim operation = "reduce" ∧ rule.operation = .reduce) ∨
    (trim operation = "reduceByKey" ∧ rule.operation = .reduceByKey)
  entries : ∃ parsed : List (Bool × List Entry),
    List.Forall₂ (fun text entries => Spells (trim text).toList entries.1 entries.2) texts parsed ∧
      (parsed.countP (·.1) = if rule.operation = .reduce then 0 else 1) ∧
      rule.entries = parsed.flatMap (·.2)

theorem parse_eq_ok_iff {operation : String} {texts : List String} {rule : Rule} :
    Rule.parse operation texts = .ok rule ↔ SpellsOut operation texts rule := by
  have allowed : (texts.find? fun text => !text.toList.all isEntryChar) = none ↔
      ∀ text ∈ texts, ∀ c ∈ text.toList, AllowedChar c := by
    simp [List.find?_eq_none, isEntryChar_iff]
  unfold Rule.parse
  split
  · rename_i text found
    constructor
    · intro impossible
      cases impossible
    · intro spells
      rw [allowed.mpr spells.characters] at found
      cases found
  · rename_i noneFound
    simp only [bind_eq_ok_iff, ruleOperation_eq_ok_iff, mapM_eq_ok_iff, parseEntry_eq_ok_iff,
      checkDesignators_eq_ok_iff]
    constructor
    · rintro ⟨operation', known, parsed, spelled, _, designators, same⟩
      cases same
      refine ⟨allowed.mp noneFound, known, parsed, spelled, ?_, rfl⟩
      rcases known with ⟨-, rfl⟩ | ⟨-, rfl⟩ <;> exact designators
    · rintro ⟨-, known, parsed, spelled, designators, entries⟩
      refine ⟨rule.operation, known, parsed, spelled, (), ?_, by rw [← entries]⟩
      rw [designators]
      rcases known with ⟨-, same⟩ | ⟨-, same⟩ <;>
        simp [same, designatorCount, Operation.requiresKey]

/-- A rule is compiled exactly when the texts spell it out and it fits the schema. -/
theorem rule_compiles_iff (operation : String) (texts : List String) (schema : Schema)
    (rule : Rule) :
    Rule.compile operation texts schema = .ok rule ↔
      SpellsOut operation texts rule ∧ Fits rule schema := by
  simp only [Rule.compile, bind_eq_ok_iff, parse_eq_ok_iff, check_eq_ok_iff]
  constructor
  · rintro ⟨rule', spells, _, fits, same⟩
    cases same
    exact ⟨spells, fits⟩
  · rintro ⟨spells, fits⟩
    exact ⟨rule, spells, (), fits, rfl⟩

example : Rule.compile " reduceByKey" ["sum ( bytes )", "key: (host, port)"]
    ⟨[⟨"host", .string⟩, ⟨"port", .integer⟩, ⟨"bytes", .long⟩]⟩ =
      .ok ⟨.reduceByKey, [.aggregate "sum" "bytes", .key "host", .key "port"]⟩ := by
  decide +kernel

end StreamPlan.Aggregation
