import StreamPlan.Proofs.Aggregation.Compile
import StreamPlan.Proofs.Aggregation.Faults

/-! Which fault a rule is refused for when its texts have several. The characters of all texts come
first, then the operation, the texts one by one, the number of key designators, and the schema last,
which therefore has no part in the faults before it. -/

set_option autoImplicit false

namespace StreamPlan.Aggregation

open Text (trim)

inductive Refused (entry : String) : RuleError → Prop where
  | unbalanced {fields : List Char} (designates : IsDesignator fields entry.toList)
      (unbalanced : fields.count '(' ≠ fields.count ')') :
      Refused entry (.unbalancedParentheses entry (fields.count '(') (fields.count ')'))
  | unlisted {fields : List Char} (designates : IsDesignator fields entry.toList)
      (balanced : fields.count '(' = fields.count ')')
      (unlisted : ∀ names, ¬ ListsNames (trim (String.ofList fields)).toList names) :
      Refused entry (.malformedEntry entry)
  | ambiguous (noKeys : ∀ fields, ¬ IsDesignator fields entry.toList)
      (notCall : ∀ function field, ¬ IsCall function field entry.toList)
      (hasCall : HasCall entry.toList) : Refused entry (.ambiguousEntry entry)
  | malformed (noKeys : ∀ fields, ¬ IsDesignator fields entry.toList)
      (absent : ¬ HasCall entry.toList) : Refused entry (.malformedEntry entry)

theorem refused_of_keyFields {entry : String} {fields : List Char} {reason : RuleError}
    (designates : IsDesignator fields entry.toList)
    (failed : keyFields entry fields = .error reason) : Refused entry reason := by
  by_cases balanced : fields.count '(' = fields.count ')'
  · obtain ⟨names, read⟩ | malformed := keyFields_of_balanced balanced entry
    · rw [read] at failed
      cases failed
    · rw [malformed] at failed
      cases failed
      exact .unlisted designates balanced (keyFields_eq_malformedEntry_iff.mp malformed).2
  · rw [keyFields_of_unbalanced balanced] at failed
    cases failed
    exact .unbalanced designates balanced

theorem refused_of_callEntry {entry : String} {reason : RuleError}
    (noKeys : ∀ fields, ¬ IsDesignator fields entry.toList)
    (failed : callEntry entry = .error reason) : Refused entry reason := by
  have notCall := not_isCall_of_callEntry failed
  rw [callEntry_of_not_isCall notCall] at failed
  split at failed
  · rename_i contains
    cases failed
    exact .ambiguous noKeys notCall (containsCall_iff.mp contains)
  · rename_i contains
    cases failed
    exact .malformed noKeys (mt containsCall_iff.mpr contains)

theorem parseEntry_eq_error_iff {text : String} {reason : RuleError} :
    parseEntry text = .error reason ↔ Refused (trim text) reason := by
  unfold parseEntry
  dsimp only
  constructor
  · intro failed
    split at failed
    · rename_i fields found
      exact refused_of_keyFields (designated?_eq_some_iff.mp found) (map_eq_error_iff.mp failed)
    · rename_i notFound
      exact refused_of_callEntry (designated?_eq_none_iff.mp notFound) (map_eq_error_iff.mp failed)
  · intro refused
    cases refused with
    | unbalanced designates unbalanced =>
      rw [designated?_eq_some_iff.mpr designates]
      exact map_eq_error_iff.mpr (keyFields_of_unbalanced unbalanced _)
    | unlisted designates balanced unlisted =>
      rw [designated?_eq_some_iff.mpr designates]
      exact map_eq_error_iff.mpr (keyFields_eq_malformedEntry_iff.mpr ⟨balanced, unlisted⟩)
    | ambiguous noKeys notCall hasCall =>
      rw [designated?_eq_none_iff.mpr noKeys]
      exact map_eq_error_iff.mpr (callEntry_eq_ambiguousEntry_iff.mpr ⟨notCall, hasCall⟩)
    | malformed noKeys absent =>
      rw [designated?_eq_none_iff.mpr noKeys]
      exact map_eq_error_iff.mpr (callEntry_eq_malformedEntry_iff.mpr absent)

def HasForbidden (text : String) : Prop := ∃ c ∈ text.toList, ¬ AllowedChar c

/-- What the name of a rule's operation may be, with or without blanks around it. -/
def NamesOperation (text : String) (operation : Operation) : Prop :=
  (trim text = "reduce" ∧ operation = .reduce) ∨
    (trim text = "reduceByKey" ∧ operation = .reduceByKey)

def SpellParts (texts : List String) (parts : List (Bool × List Entry)) : Prop :=
  List.Forall₂ (fun text part => Spells (trim text).toList part.1 part.2) texts parts

inductive Stage where
  | characters
  | operation
  | entries
  | designators
  | schema
  deriving DecidableEq, Repr

def Stage.earlier : Stage → List Stage
  | characters => []
  | operation => [characters]
  | entries => [characters, operation]
  | designators => [characters, operation, entries]
  | schema => [characters, operation, entries, designators]

def RuleError.stage : RuleError → Stage
  | .invalidCharacters _ => .characters
  | .unsupportedOperation _ => .operation
  | .malformedEntry _ | .ambiguousEntry _ | .unbalancedParentheses _ _ _ => .entries
  | .keyNotUnique _ | .missingKey _ => .designators
  | .unsupportedFunctions _ | .unknownOrUnusedFields _ | .alreadyAggregated _
  | .incorrectFieldType _ _ => .schema

/-- What a stage finds wrong, whatever is wrong for other stages. Of the texts it is the first wrong
one that counts, and of the violations of a schema the first. -/
inductive Fault (name : String) (texts : List String) (schema : Schema) :
    Stage → RuleError → Prop where
  | characters {before after : List String} {text : String}
      (split : texts = before ++ text :: after)
      (first : ∀ earlier ∈ before, ¬ HasForbidden earlier) (forbidden : HasForbidden text) :
      Fault name texts schema .characters (.invalidCharacters (trim text))
  | operation (unknown : ∀ operation, ¬ NamesOperation name operation) :
      Fault name texts schema .operation (.unsupportedOperation name)
  | entry {before after : List String} {text : String} {parts : List (Bool × List Entry)}
      {reason : RuleError} (split : texts = before ++ text :: after)
      (first : SpellParts before parts) (refused : Refused (trim text) reason) :
      Fault name texts schema .entries reason
  | surplus {operation : Operation} {parts : List (Bool × List Entry)}
      (names : NamesOperation name operation) (spelled : SpellParts texts parts)
      (more : (if operation = .reduce then 0 else 1) < parts.countP (·.1)) :
      Fault name texts schema .designators (.keyNotUnique operation)
  | missing {operation : Operation} {parts : List (Bool × List Entry)}
      (names : NamesOperation name operation) (spelled : SpellParts texts parts)
      (fewer : parts.countP (·.1) < if operation = .reduce then 0 else 1) :
      Fault name texts schema .designators (.missingKey operation)
  | violation {rule : Rule} {reason : RuleError} {later : List RuleError}
      (spells : SpellsOut name texts rule) (violates : Violates rule schema (reason :: later)) :
      Fault name texts schema .schema reason

section

variable {name : String} {texts : List String} {schema : Schema} {operation : Operation}
  {reason : RuleError}

theorem hasForbidden_iff {text : String} :
    HasForbidden text ↔ (!text.toList.all isEntryChar) = true := by
  simp [HasForbidden, isEntryChar_iff]

theorem fault_characters_iff : Fault name texts schema .characters reason ↔ ∃ text,
    (texts.find? fun text => !text.toList.all isEntryChar) = some text ∧
      reason = .invalidCharacters (trim text) := by
  simp only [List.find?_eq_some_iff_append, ← hasForbidden_iff]
  constructor
  · intro fault
    cases fault with
    | characters split first forbidden =>
      exact ⟨_, ⟨forbidden, _, _, split, by simpa [hasForbidden_iff] using first⟩, rfl⟩
  · rintro ⟨text, ⟨forbidden, before, after, split, first⟩, rfl⟩
    exact .characters split (by simpa [hasForbidden_iff] using first) forbidden

theorem exists_fault_characters_iff :
    (∃ reason, Fault name texts schema .characters reason) ↔ ∃ text ∈ texts, HasForbidden text := by
  simp only [fault_characters_iff]
  rw [exists_comm]
  simp only [exists_and_left, exists_eq, and_true, ← Option.isSome_iff_exists, List.find?_isSome,
    hasForbidden_iff]

theorem ruleOperation_eq_error_iff : ruleOperation name = .error reason ↔
    (∀ operation, ¬ NamesOperation name operation) ∧ reason = .unsupportedOperation name := by
  have unknown : (∀ operation, ruleOperation name ≠ .ok operation) ↔
      ∀ operation, ¬ NamesOperation name operation :=
    forall_congr' fun operation => not_congr ruleOperation_eq_ok_iff
  rw [← unknown, ruleOperation]
  split <;> simp [eq_comm]

theorem fault_operation_iff :
    Fault name texts schema .operation reason ↔ ruleOperation name = .error reason := by
  rw [ruleOperation_eq_error_iff]
  constructor
  · intro fault
    cases fault with
    | operation unknown => exact ⟨unknown, rfl⟩
  · rintro ⟨unknown, rfl⟩
    exact .operation unknown

theorem mapM_parseEntry_eq_ok_iff {parts : List (Bool × List Entry)} :
    texts.mapM parseEntry = .ok parts ↔ SpellParts texts parts := by
  simp only [mapM_eq_ok_iff, parseEntry_eq_ok_iff, SpellParts]

theorem fault_entries_iff :
    Fault name texts schema .entries reason ↔ texts.mapM parseEntry = .error reason := by
  simp only [mapM_eq_error_iff, parseEntry_eq_error_iff, ← mapM_eq_ok_iff,
    mapM_parseEntry_eq_ok_iff]
  constructor
  · intro fault
    cases fault with
    | entry split first refused => exact ⟨_, _, _, _, split, first, refused⟩
  · rintro ⟨before, text, after, parts, split, first, refused⟩
    exact .entry split first refused

theorem exists_fault_entries_iff : (∃ reason, Fault name texts schema .entries reason) ↔
    ∃ text ∈ texts, ∃ reason, Refused (trim text) reason := by
  simp only [fault_entries_iff, ← parseEntry_eq_error_iff, exists_mapM_eq_error_iff]

theorem checkDesignators_eq_error_iff {count : Nat} :
    checkDesignators operation count = .error reason ↔
      ((if operation = .reduce then 0 else 1) < count ∧ reason = .keyNotUnique operation) ∨
      (count < (if operation = .reduce then 0 else 1) ∧ reason = .missingKey operation) := by
  have expected : designatorCount operation = if operation = .reduce then 0 else 1 := by
    cases operation <;> rfl
  rw [← expected, checkDesignators]
  split
  · rename_i more
    simp [more, Nat.lt_asymm more, eq_comm]
  split
  · rename_i notMore fewer
    simp [notMore, fewer, eq_comm]
  · rename_i notMore notFewer
    simp [notMore, notFewer]

theorem fault_designators_iff : Fault name texts schema .designators reason ↔
    ∃ operation parts, ruleOperation name = .ok operation ∧ texts.mapM parseEntry = .ok parts ∧
      checkDesignators operation (parts.countP (·.1)) = .error reason := by
  simp only [ruleOperation_eq_ok_iff, mapM_parseEntry_eq_ok_iff, checkDesignators_eq_error_iff]
  constructor
  · intro fault
    cases fault with
    | surplus names spelled more => exact ⟨_, _, names, spelled, .inl ⟨more, rfl⟩⟩
    | missing names spelled fewer => exact ⟨_, _, names, spelled, .inr ⟨fewer, rfl⟩⟩
  · rintro ⟨operation, parts, names, spelled, ⟨more, rfl⟩ | ⟨fewer, rfl⟩⟩
    · exact .surplus names spelled more
    · exact .missing names spelled fewer

/-- Where the operation and the entries are right, only the number of designators matters. -/
theorem fault_designators_of_spelled {parts : List (Bool × List Entry)}
    (names : NamesOperation name operation) (spelled : SpellParts texts parts) :
    Fault name texts schema .designators reason ↔
      ((if operation = .reduce then 0 else 1) < parts.countP (·.1) ∧
        reason = .keyNotUnique operation) ∨
      (parts.countP (·.1) < (if operation = .reduce then 0 else 1) ∧
        reason = .missingKey operation) := by
  rw [fault_designators_iff, ← checkDesignators_eq_error_iff, ruleOperation_eq_ok_iff.mpr names,
    mapM_parseEntry_eq_ok_iff.mpr spelled]
  constructor
  · rintro ⟨operation', parts', ⟨⟩, ⟨⟩, counted⟩
    exact counted
  · exact fun counted => ⟨operation, parts, rfl, rfl, counted⟩

theorem check_eq_error_iff {rule : Rule} :
    rule.check schema = .error reason ↔ ∃ later, Violates rule schema (reason :: later) := by
  simp only [violates_iff, Rule.check]
  cases rule.violations schema <;> simp [eq_comm]

theorem fault_schema_iff : Fault name texts schema .schema reason ↔
    ∃ rule, Rule.parse name texts = .ok rule ∧ rule.check schema = .error reason := by
  simp only [parse_eq_ok_iff, check_eq_error_iff]
  constructor
  · intro fault
    cases fault with
    | violation spells violates => exact ⟨_, spells, _, violates⟩
  · rintro ⟨rule, spells, later, violates⟩
    exact .violation spells violates

theorem Refused.stage {entry : String} (refused : Refused entry reason) :
    reason.stage = .entries := by
  cases refused <;> rfl

theorem TypeViolations.stage {entries : List Entry} {errors : List RuleError}
    (types : TypeViolations schema entries errors) : ∀ error ∈ errors, error.stage = .schema := by
  induction types with
  | nil => simp
  | mistyped _ _ ih => exact List.forall_mem_cons.mpr ⟨rfl, ih⟩
  | fitting _ _ ih => exact ih

theorem Violates.stage {rule : Rule} {errors : List RuleError}
    (violates : Violates rule schema errors) : ∀ error ∈ errors, error.stage = .schema := by
  cases violates with
  | @intro unsupported mismatched repeated mistyped functions fields aggregations types =>
    have single {error : RuleError} (names : List String) (last : error.stage = .schema) :
        ∀ e ∈ (if names = [] then [] else [error]), e.stage = .schema := by
      split <;> simp [last]
    simp only [List.forall_mem_append]
    exact ⟨⟨⟨single unsupported rfl, single mismatched rfl⟩, List.forall_mem_map.mpr fun _ _ => rfl⟩,
      types.stage⟩

theorem Fault.stage_eq {stage : Stage} (fault : Fault name texts schema stage reason) :
    reason.stage = stage := by
  cases fault with
  | characters | operation | surplus | missing => rfl
  | entry split first refused => exact refused.stage
  | violation spells violates => exact violates.stage reason List.mem_cons_self

def FirstFault (name : String) (texts : List String) (schema : Schema) (stage : Stage)
    (reason : RuleError) : Prop :=
  Fault name texts schema stage reason ∧
    ∀ earlier ∈ stage.earlier, ∀ other, ¬ Fault name texts schema earlier other

theorem exists_stage_iff {p : Stage → Prop} : (∃ stage, p stage) ↔
    p .characters ∨ p .operation ∨ p .entries ∨ p .designators ∨ p .schema := by
  constructor
  · rintro ⟨stage, holds⟩
    cases stage <;> simp [holds]
  · rintro (holds | holds | holds | holds | holds) <;> exact ⟨_, holds⟩

theorem compile_eq_error_iff : Rule.compile name texts schema = .error reason ↔
    ∃ stage, FirstFault name texts schema stage reason := by
  -- one of the five checks fails, and then those before it have not, or all of them succeed
  simp only [exists_stage_iff, FirstFault, Stage.earlier, List.forall_mem_cons,
    fault_characters_iff, fault_operation_iff, fault_entries_iff, fault_designators_iff,
    fault_schema_iff, Rule.compile, Rule.parse, bind, Except.bind]
  cases found : texts.find? fun text => !text.toList.all isEntryChar with
  | some text => simp [eq_comm]
  | none =>
    cases known : ruleOperation name with
    | error unknown => simp
    | ok operation =>
      cases parsed : texts.mapM parseEntry with
      | error refused => simp
      | ok parts =>
        cases counted : checkDesignators operation (parts.countP (·.1)) with
        | error wrong => simp [counted]
        | ok =>
          cases checked : Rule.check ⟨operation, parts.flatMap (·.2)⟩ schema with
          | error violation => simp [counted, checked]
          | ok => simp [counted, checked]

/-- A fault in the texts is reported for every schema. -/
theorem compile_error_of_stage_ne (other : Schema) (parsing : reason.stage ≠ .schema)
    (failed : Rule.compile name texts schema = .error reason) :
    Rule.compile name texts other = .error reason := by
  rcases bind_eq_error_iff.mp failed with failed | ⟨rule, -, failed⟩
  · exact bind_eq_error_iff.mpr (.inl failed)
  · rcases bind_eq_error_iff.mp failed with violated | ⟨-, -, impossible⟩
    · obtain ⟨later, violates⟩ := check_eq_error_iff.mp violated
      exact absurd (violates.stage reason List.mem_cons_self) parsing
    · cases impossible

end

/-- Compiling a rule fails with the fault of the first stage that has one, and the kind of a fault
tells its stage. Forbidden characters come first, then the operation, then the first text that is no
entry, whatever the number of designators, then this number, and the first violation of the schema
comes last, so that no other schema changes a fault in the texts. -/
theorem compile_error_stages (name : String) (texts : List String) (schema : Schema) :
    (∀ reason, Rule.compile name texts schema = .error reason ↔
      ∃ stage, FirstFault name texts schema stage reason) ∧
    (∀ stage reason, Fault name texts schema stage reason → reason.stage = stage) ∧
    ((∃ reason, Fault name texts schema .characters reason) ↔ ∃ text ∈ texts, HasForbidden text) ∧
    ((∃ reason, Fault name texts schema .operation reason) ↔
      ∀ operation, ¬ NamesOperation name operation) ∧
    ((∃ reason, Fault name texts schema .entries reason) ↔
      ∃ text ∈ texts, ∃ reason, Refused (trim text) reason) ∧
    (∀ operation parts, NamesOperation name operation → SpellParts texts parts → ∀ reason,
      Fault name texts schema .designators reason ↔
        ((if operation = .reduce then 0 else 1) < parts.countP (·.1) ∧
          reason = .keyNotUnique operation) ∨
        (parts.countP (·.1) < (if operation = .reduce then 0 else 1) ∧
          reason = .missingKey operation)) ∧
    ∀ reason other, reason.stage ≠ .schema → Rule.compile name texts schema = .error reason →
      Rule.compile name texts other = .error reason := by
  refine ⟨fun _ => compile_eq_error_iff, fun _ _ => Fault.stage_eq, exists_fault_characters_iff, ?_,
    exists_fault_entries_iff, fun _ _ names spelled _ => fault_designators_of_spelled names spelled,
    fun _ other => compile_error_of_stage_ne other⟩
  simp [fault_operation_iff, ruleOperation_eq_error_iff]

/-- Two designators, a text that is no entry and an empty schema: the text is what is wrong. -/
theorem compile_error_stages_several :
    let texts := ["key: a", "sum b", "key: c"]
    FirstFault " reduceByKey" texts ⟨[]⟩ .entries (.malformedEntry "sum b") ∧
      Rule.compile " reduceByKey" texts ⟨[⟨"a", .long⟩]⟩ = .error (.malformedEntry "sum b") := by
  intro texts
  have failed : Rule.compile " reduceByKey" texts ⟨[]⟩ = .error (.malformedEntry "sum b") := by
    decide +kernel
  obtain ⟨first, kinds, -, -, -, -, independent⟩ := compile_error_stages " reduceByKey" texts ⟨[]⟩
  obtain ⟨stage, fault, clean⟩ := (first _).mp failed
  obtain rfl : Stage.entries = stage := kinds stage _ fault
  exact ⟨⟨fault, clean⟩, independent _ _ (by decide) failed⟩

end StreamPlan.Aggregation
