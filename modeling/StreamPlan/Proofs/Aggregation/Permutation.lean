import StreamPlan.Proofs.Aggregation.Stages
import StreamPlan.Proofs.Schema.Distinct

/-! What the order of the texts and of the fields of a schema decides. Each text keeps its part of
the rule wherever it stands, so that a rule is accepted in every order and has its parts in that
order. Of the violations only those of types follow the order of the entries. A schema with distinct
names makes the same violations in every order of its fields. -/

set_option autoImplicit false

namespace StreamPlan.Aggregation

open Text (trim)

section

variable {schema schema' : Schema}

theorem names_perm (fields : schema.fields.Perm schema'.fields) :
    schema.names.Perm schema'.names := fields.map _

theorem type?_eq_of_perm (distinct : schema.names.Nodup)
    (fields : schema.fields.Perm schema'.fields) (name : String) :
    schema'.type? name = schema.type? name := by
  have distinct' := (names_perm fields).nodup_iff.mp distinct
  apply Option.ext
  intro type
  rw [Schema.type?_eq_some_iff_mem distinct, Schema.type?_eq_some_iff_mem distinct',
    fields.mem_iff]

end

namespace Rule

/-- The violations of functions and fields, which are said of sets of names. -/
def nameViolations (rule : Rule) (schema : Schema) : List RuleError :=
  ofNames .unsupportedFunctions rule.unsupportedNames ++
    ofNames .unknownOrUnusedFields (rule.mismatchedFields schema) ++
    rule.repeatedFields.map .alreadyAggregated

def typeViolations (rule : Rule) (schema : Schema) : List RuleError :=
  rule.aggregations.filterMap (typeViolation? schema)

variable {rule rule' : Rule} {schema schema' : Schema}

theorem violations_eq_append :
    rule.violations schema = rule.nameViolations schema ++ rule.typeViolations schema := rfl

theorem not_mem_nameViolations (field : String) (function : Function) :
    .incorrectFieldType field function ∉ rule.nameViolations schema := by
  simp only [nameViolations, ofNames_eq, List.mem_append, List.mem_map]
  rintro ((functions | fields) | ⟨name, -, impossible⟩)
  · split at functions <;> simp at functions
  · split at fields <;> simp at fields
  · cases impossible

theorem eq_incorrectFieldType_of_mem {error : RuleError}
    (member : error ∈ rule.typeViolations schema) :
    ∃ field function, error = .incorrectFieldType field function := by
  obtain ⟨entry, aggregated, found⟩ := List.mem_filterMap.mp member
  obtain ⟨function, -, same⟩ :=
    (typeViolation?_eq_some_iff (mem_aggregations.mp aggregated).2).mp found
  exact ⟨entry.field, function, same⟩

theorem aggregations_perm (entries : rule.entries.Perm rule'.entries) :
    rule.aggregations.Perm rule'.aggregations := entries.filter _

theorem unsupportedNames_eq_of_perm (entries : rule.entries.Perm rule'.entries) :
    rule'.unsupportedNames = rule.unsupportedNames := by
  refine lists_unsupportedNames.eq_of_iff lists_unsupportedNames fun name => ?_
  simp only [Unsupported, entries.mem_iff]

theorem mismatchedFields_eq_of_perm (entries : rule.entries.Perm rule'.entries)
    (fields : schema.fields.Perm schema'.fields) :
    rule'.mismatchedFields schema' = rule.mismatchedFields schema := by
  refine lists_mismatchedFields.eq_of_iff lists_mismatchedFields fun name => ?_
  simp only [Mismatched, entries.mem_iff, fields.mem_iff]

theorem repeatedFields_eq_of_perm (entries : rule.entries.Perm rule'.entries) :
    rule'.repeatedFields = rule.repeatedFields := by
  refine lists_repeatedFields.eq_of_iff lists_repeatedFields fun name => ?_
  simp only [Repeated, entries.countP_eq]

theorem nameViolations_eq_of_perm (entries : rule.entries.Perm rule'.entries)
    (fields : schema.fields.Perm schema'.fields) :
    rule'.nameViolations schema' = rule.nameViolations schema := by
  rw [nameViolations, nameViolations, unsupportedNames_eq_of_perm entries,
    mismatchedFields_eq_of_perm entries fields, repeatedFields_eq_of_perm entries]

theorem typeViolations_perm (entries : rule.entries.Perm rule'.entries) (schema : Schema) :
    (rule.typeViolations schema).Perm (rule'.typeViolations schema) :=
  (aggregations_perm entries).filterMap _

theorem typeViolations_eq_of_perm (distinct : schema.names.Nodup)
    (fields : schema.fields.Perm schema'.fields) (rule : Rule) :
    rule.typeViolations schema' = rule.typeViolations schema := by
  refine List.filterMap_congr fun entry _ => ?_
  rw [typeViolation?, typeViolation?, type?_eq_of_perm distinct fields]

theorem violations_eq_of_perm (distinct : schema.names.Nodup)
    (fields : schema.fields.Perm schema'.fields) (rule : Rule) :
    rule.violations schema' = rule.violations schema := by
  rw [violations_eq_append, violations_eq_append, nameViolations_eq_of_perm (.refl _) fields,
    typeViolations_eq_of_perm distinct fields]

theorem violations_perm (entries : rule.entries.Perm rule'.entries) (schema : Schema) :
    (rule.violations schema).Perm (rule'.violations schema) := by
  rw [violations_eq_append, violations_eq_append, nameViolations_eq_of_perm entries (.refl _)]
  exact (typeViolations_perm entries schema).append_left _

end Rule

/-- The texts spell out the rule, and each of them the part of the rule that belongs to it. -/
structure SpelledBy (part : String → Bool × List Entry) (name : String) (texts : List String)
    (rule : Rule) : Prop where
  characters : ∀ text ∈ texts, ∀ c ∈ text.toList, AllowedChar c
  operation : NamesOperation name rule.operation
  spells : ∀ text ∈ texts, Spells (trim text).toList (part text).1 (part text).2
  designators : (texts.countP fun text => (part text).1) = if rule.operation = .reduce then 0 else 1
  entries : rule.entries = texts.flatMap fun text => (part text).2

def partOf (text : String) : Bool × List Entry := (parseEntry text).toOption.getD (false, [])

theorem partOf_of_spells {text : String} {part : Bool × List Entry}
    (spells : Spells (trim text).toList part.1 part.2) : partOf text = part := by
  rw [partOf, parseEntry_eq_ok_iff.mpr spells]
  rfl

section

variable {name : String} {texts texts' : List String} {rule rule' : Rule}
  {part : String → Bool × List Entry}

theorem SpellParts.eq_map {parts : List (Bool × List Entry)} (spelled : SpellParts texts parts) :
    parts = texts.map partOf := by
  induction spelled with
  | nil => rfl
  | cons spells _ ih => rw [List.map_cons, partOf_of_spells spells, ih]

theorem SpelledBy.spellsOut (spelled : SpelledBy part name texts rule) :
    SpellsOut name texts rule := by
  refine ⟨spelled.characters, spelled.operation, texts.map part, ?_, ?_, ?_⟩
  · exact List.forall₂_map_right_iff.mpr (List.forall₂_same.mpr spelled.spells)
  · rw [List.countP_map]
    exact spelled.designators
  · rw [List.flatMap_map]
    exact spelled.entries

theorem SpellsOut.spelledBy (spells : SpellsOut name texts rule) :
    SpelledBy partOf name texts rule := by
  obtain ⟨characters, operation, parts, spelled, designators, entries⟩ := spells
  obtain rfl := SpellParts.eq_map spelled
  rw [List.countP_map] at designators
  rw [List.flatMap_map] at entries
  refine ⟨characters, operation, ?_, designators, entries⟩
  exact List.forall₂_same.mp (List.forall₂_map_right_iff.mp spelled)

/-- In another order the texts spell out the rule that has their parts in this order. -/
theorem SpelledBy.perm (reordered : texts.Perm texts') (spelled : SpelledBy part name texts rule) :
    SpelledBy part name texts' ⟨rule.operation, texts'.flatMap fun text => (part text).2⟩ where
  characters text member := spelled.characters text (reordered.mem_iff.mpr member)
  operation := spelled.operation
  spells text member := spelled.spells text (reordered.mem_iff.mpr member)
  designators := by
    rw [← reordered.countP_eq]
    exact spelled.designators
  entries := rfl

theorem SpellsOut.unique (spells : SpellsOut name texts rule)
    (spells' : SpellsOut name texts rule') : rule = rule' := by
  have parsed := parse_eq_ok_iff.mpr spells
  rw [parse_eq_ok_iff.mpr spells'] at parsed
  exact (Except.ok.inj parsed).symm

theorem SpelledBy.entries_perm (reordered : texts.Perm texts')
    (spelled : SpelledBy part name texts rule) (spelled' : SpelledBy part name texts' rule') :
    rule.entries.Perm rule'.entries := by
  rw [spelled.entries, spelled'.entries]
  exact reordered.flatMap_right _

theorem SpelledBy.operation_eq (reordered : texts.Perm texts')
    (spelled : SpelledBy part name texts rule) (spelled' : SpelledBy part name texts' rule') :
    rule'.operation = rule.operation := by
  rw [spelled'.spellsOut.unique (spelled.perm reordered).spellsOut]

theorem Fits.perm {schema schema' : Schema} (entries : rule.entries.Perm rule'.entries)
    (distinct : schema.names.Nodup) (fields : schema.fields.Perm schema'.fields)
    (fits : Fits rule schema) : Fits rule' schema' := by
  rw [← violations_eq_nil_iff] at fits ⊢
  have none := Rule.violations_perm entries schema
  rw [fits] at none
  rw [Rule.violations_eq_of_perm distinct fields, ← none.nil_eq]

theorem compiles_of_perm {schema schema' : Schema} (reordered : texts.Perm texts')
    (distinct : schema.names.Nodup) (fields : schema.fields.Perm schema'.fields)
    (accepted : ∃ rule, Rule.compile name texts schema = .ok rule) :
    ∃ rule, Rule.compile name texts' schema' = .ok rule := by
  simp only [Rule.compile, bind_eq_ok_iff, parse_eq_ok_iff, check_eq_ok_iff] at accepted ⊢
  obtain ⟨_, rule, spells, _, fits, -⟩ := accepted
  have spelled := spells.spelledBy
  have spelled' := spelled.perm reordered
  exact ⟨_, _, spelled'.spellsOut, (),
    fits.perm (spelled.entries_perm reordered spelled') distinct fields, rfl⟩

end

/-- Neither the order of the texts nor that of the fields of a schema with distinct names decides
whether a rule is accepted, and an accepted rule has the parts of the texts in their order. Entries
in another order have the same violations but for those of types, which follow the order of the
entries; another order of the fields changes no violation. -/
theorem order_irrelevant (name : String) {texts texts' : List String} {schema schema' : Schema}
    (reordered : texts.Perm texts') (distinct : schema.names.Nodup)
    (fields : schema.fields.Perm schema'.fields) :
    ((∃ rule, Rule.compile name texts schema = .ok rule) ↔
      ∃ rule, Rule.compile name texts' schema' = .ok rule) ∧
    (∀ rule rule', Rule.compile name texts schema = .ok rule →
      Rule.compile name texts' schema' = .ok rule' →
        rule'.operation = rule.operation ∧ rule.entries.Perm rule'.entries ∧
          ∃ part, SpelledBy part name texts rule ∧ SpelledBy part name texts' rule') ∧
    (∀ (rule rule' : Rule) (any : Schema), rule.entries.Perm rule'.entries →
      ∃ shared mistyped mistyped' : List RuleError,
        (∀ reported, Rule.report reported rule any = reported ++ (shared ++ mistyped)) ∧
        (∀ reported, Rule.report reported rule' any = reported ++ (shared ++ mistyped')) ∧
        (∀ error ∈ shared, ∀ field function, error ≠ .incorrectFieldType field function) ∧
        (∀ error ∈ mistyped, ∃ field function, error = .incorrectFieldType field function) ∧
        mistyped.Perm mistyped') ∧
    ∀ (rule : Rule) (reported : List RuleError),
      Rule.report reported rule schema' = Rule.report reported rule schema := by
  have distinct' := (names_perm fields).nodup_iff.mp distinct
  refine ⟨⟨compiles_of_perm reordered distinct fields,
    compiles_of_perm reordered.symm distinct' fields.symm⟩, ?_, ?_, ?_⟩
  · intro rule rule' compiled compiled'
    simp only [Rule.compile, bind_eq_ok_iff, parse_eq_ok_iff] at compiled compiled'
    obtain ⟨_, spells, _, -, ⟨⟩⟩ := compiled
    obtain ⟨_, spells', _, -, ⟨⟩⟩ := compiled'
    have spelled := spells.spelledBy
    have spelled' := spells'.spelledBy
    exact ⟨spelled.operation_eq reordered spelled', spelled.entries_perm reordered spelled',
      partOf, spelled, spelled'⟩
  · intro rule rule' any entries
    refine ⟨rule.nameViolations any, rule.typeViolations any, rule'.typeViolations any,
      fun _ => rfl, fun reported => ?_, ?_, ?_, Rule.typeViolations_perm entries any⟩
    · rw [← Rule.nameViolations_eq_of_perm entries (.refl any.fields)]
      rfl
    · rintro error member field function rfl
      exact Rule.not_mem_nameViolations field function member
    · exact fun error => Rule.eq_incorrectFieldType_of_mem
  · intro rule reported
    rw [Rule.report, Rule.report, Rule.violations_eq_of_perm distinct fields]

/-- A block of keys and an aggregation, the texts and the fields both reversed. -/
theorem order_irrelevant_reversed :
    let texts := ["key: (a, b)", "sum(c)"]
    let entries := [Entry.key "a", Entry.key "b", Entry.aggregate "sum" "c"]
    let schema : Schema := ⟨[⟨"a", .long⟩, ⟨"b", .string⟩, ⟨"c", .long⟩]⟩
    let schema' : Schema := ⟨schema.fields.reverse⟩
    let other : Rule := ⟨.reduce, [.aggregate "max" "b", .aggregate "avg" "a"]⟩
    texts.Perm texts.reverse ∧ schema.names.Nodup ∧ schema.fields.Perm schema'.fields ∧
      (∃ rule, Rule.compile "reduceByKey" texts.reverse schema' = .ok rule ∧
        entries.Perm rule.entries) ∧
      Rule.report [] other schema' = Rule.report [] other schema := by
  intro texts entries schema schema' other
  have reordered : texts.Perm texts.reverse := (List.reverse_perm texts).symm
  have fields : schema.fields.Perm schema'.fields := (List.reverse_perm schema.fields).symm
  have distinct : schema.names.Nodup := by decide +kernel
  have compiled : Rule.compile "reduceByKey" texts schema = .ok ⟨.reduceByKey, entries⟩ := by
    decide +kernel
  obtain ⟨accepted, same, -, unchanged⟩ :=
    order_irrelevant "reduceByKey" reordered distinct fields
  obtain ⟨rule, compiled'⟩ := accepted.mp ⟨_, compiled⟩
  obtain ⟨-, permuted, -⟩ := same _ _ compiled compiled'
  exact ⟨reordered, distinct, fields, ⟨rule, compiled', permuted⟩, unchanged other []⟩

-- Of two fields of one name a look-up finds the first, and there their order matters.
example :
    let rule : Rule := ⟨.reduce, [.aggregate "sum" "a"]⟩
    Rule.report [] rule ⟨[⟨"a", .long⟩, ⟨"a", .string⟩]⟩ = [] ∧
      Rule.report [] rule ⟨[⟨"a", .string⟩, ⟨"a", .long⟩]⟩ = [.incorrectFieldType "a" .sum] := by
  decide +kernel

end StreamPlan.Aggregation
