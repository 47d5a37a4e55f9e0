import StreamPlan.Proofs.Aggregation.Occurrence

/-! Which fault an entry is refused for. A list of keys whose parentheses do not balance is told from
one that is malformed otherwise, and text with a call and something beside it from text without any
call. The calls that a search finds in an entry decide what it is. -/

set_option autoImplicit false

namespace StreamPlan.Aggregation

open Text (trim)

section

variable {fields : List Char}

theorem keyFields_of_unbalanced (unbalanced : fields.count '(' ≠ fields.count ')')
    (entry : String) :
    keyFields entry fields =
      .error (.unbalancedParentheses entry (fields.count '(') (fields.count ')')) := by
  rw [keyFields, Text.count_trim fields not_isBlank_mark.1,
    Text.count_trim fields not_isBlank_mark.2.1, if_pos unbalanced]

theorem keyFields_of_balanced (balanced : fields.count '(' = fields.count ')') (entry : String) :
    (∃ names, keyFields entry fields = .ok names) ∨
      keyFields entry fields = .error (.malformedEntry entry) := by
  rw [keyFields, Text.count_trim fields not_isBlank_mark.1,
    Text.count_trim fields not_isBlank_mark.2.1, if_neg (not_not_intro balanced)]
  dsimp only
  split
  · exact Or.inl ⟨_, rfl⟩
  · exact Or.inr rfl

theorem keyFields_eq_unbalancedParentheses_iff {entry : String} {opening closing : Nat} :
    keyFields entry fields = .error (.unbalancedParentheses entry opening closing) ↔
      fields.count '(' = opening ∧ fields.count ')' = closing ∧ opening ≠ closing := by
  constructor
  · intro failed
    by_cases balanced : fields.count '(' = fields.count ')'
    · obtain ⟨names, read⟩ | malformed := keyFields_of_balanced balanced entry
      · rw [read] at failed
        cases failed
      · rw [malformed] at failed
        cases failed
    · rw [keyFields_of_unbalanced balanced] at failed
      cases failed
      exact ⟨rfl, rfl, balanced⟩
  · rintro ⟨rfl, rfl, unbalanced⟩
    exact keyFields_of_unbalanced unbalanced entry

theorem keyFields_eq_malformedEntry_iff {entry : String} :
    keyFields entry fields = .error (.malformedEntry entry) ↔
      fields.count '(' = fields.count ')' ∧
        ∀ names, ¬ ListsNames (trim (String.ofList fields)).toList names := by
  constructor
  · intro failed
    refine ⟨?_, fun names lists => ?_⟩
    · by_contra unbalanced
      rw [keyFields_of_unbalanced unbalanced] at failed
      cases failed
    · rw [keyFields_eq_ok_iff.mpr lists] at failed
      cases failed
  · rintro ⟨balanced, unlisted⟩
    obtain ⟨names, read⟩ | malformed := keyFields_of_balanced balanced entry
    · exact absurd (keyFields_eq_ok_iff.mp read) (unlisted names)
    · exact malformed

/-- The fields of a key designator are read exactly where they are one name, or names in parentheses
with commas between them. Where the numbers of the parentheses differ, the fault says these numbers;
whatever else is wrong makes the entry malformed. -/
theorem keyFields_exact (entry : String) (fields : List Char) :
    (∀ names, keyFields entry fields = .ok names ↔
      ListsNames (trim (String.ofList fields)).toList names) ∧
    (∀ opening closing,
      keyFields entry fields = .error (.unbalancedParentheses entry opening closing) ↔
        fields.count '(' = opening ∧ fields.count ')' = closing ∧ opening ≠ closing) ∧
    (keyFields entry fields = .error (.malformedEntry entry) ↔
      fields.count '(' = fields.count ')' ∧
        ∀ names, ¬ ListsNames (trim (String.ofList fields)).toList names) :=
  ⟨fun _ => keyFields_eq_ok_iff, fun _ _ => keyFields_eq_unbalancedParentheses_iff,
    keyFields_eq_malformedEntry_iff⟩

-- Parentheses misplaced, side by side or nested, members that are missing, and names without
-- parentheses around them.
example : ∀ text ∈ [")(", "(a)(b)", "(a),b", "((a))", "()", "(a,,b)", "a b", "a, b", " "],
    keyFields text text.toList = .error (.malformedEntry text) := by
  decide +kernel

end

theorem callEntry_of_not_isCall {entry : String}
    (notCall : ∀ function field, ¬ IsCall function field entry.toList) :
    callEntry entry =
      if containsCall entry.toList then .error (.ambiguousEntry entry)
      else .error (.malformedEntry entry) := by
  unfold callEntry
  split
  · rename_i function field found
    obtain ⟨call, isCall, same⟩ := isCall_of_leadingCall? found
    rw [List.append_nil] at same
    exact absurd (same ▸ isCall) (notCall _ _)
  · rfl

theorem callEntry_eq_aggregate_iff {entry function field : String} :
    callEntry entry = .ok (.aggregate function field) ↔
      IsCall function.toList field.toList entry.toList := by
  rw [callEntry_eq_ok_iff]
  constructor
  · rintro ⟨function', field', isCall, same⟩
    cases same
    rwa [String.toList_ofList, String.toList_ofList]
  · intro isCall
    exact ⟨_, _, isCall, by rw [String.ofList_toList, String.ofList_toList]⟩

theorem not_isCall_of_callEntry {entry : String} {reason : RuleError}
    (failed : callEntry entry = .error reason) :
    ∀ function field, ¬ IsCall function field entry.toList := by
  intro function field isCall
  rw [callEntry_eq_ok_iff.mpr ⟨function, field, isCall, rfl⟩] at failed
  cases failed

theorem callEntry_eq_ambiguousEntry_iff {entry : String} :
    callEntry entry = .error (.ambiguousEntry entry) ↔
      (∀ function field, ¬ IsCall function field entry.toList) ∧ HasCall entry.toList := by
  rw [← containsCall_iff]
  constructor
  · intro failed
    have notCall := not_isCall_of_callEntry failed
    refine ⟨notCall, ?_⟩
    by_contra absent
    rw [callEntry_of_not_isCall notCall, if_neg absent] at failed
    cases failed
  · rintro ⟨notCall, contains⟩
    rw [callEntry_of_not_isCall notCall, if_pos contains]

theorem callEntry_eq_malformedEntry_iff {entry : String} :
    callEntry entry = .error (.malformedEntry entry) ↔ ¬ HasCall entry.toList := by
  constructor
  · intro failed hasCall
    have notCall := not_isCall_of_callEntry failed
    rw [callEntry_of_not_isCall notCall, if_pos (containsCall_iff.mpr hasCall)] at failed
    cases failed
  · intro absent
    have notCall : ∀ function field, ¬ IsCall function field entry.toList := fun _ _ isCall =>
      absent ⟨_, _, _, isCall, List.infix_rfl⟩
    rw [callEntry_of_not_isCall notCall, if_neg (mt containsCall_iff.mp absent)]

/-- The entry that the calls found in it make: there is one, and it is as long as the entry. -/
def entryOfFound (entry : String) : List FoundCall → Except RuleError Entry
  | [] => .error (.malformedEntry entry)
  | [found] =>
    if found.whole.utf8ByteSize = entry.utf8ByteSize then
      .ok (.aggregate found.function found.field)
    else .error (.ambiguousEntry entry)
  | _ :: _ :: _ => .error (.ambiguousEntry entry)

-- What is found is as long as the entry only if it is all of the entry.
theorem eq_nil_of_utf8ByteSize_eq {entry whole : String} {skipped rest : List Char}
    (same : skipped ++ (whole.toList ++ rest) = entry.toList)
    (size : whole.utf8ByteSize = entry.utf8ByteSize) : skipped = [] ∧ rest = [] := by
  have parts : entry = String.ofList skipped ++ (whole ++ String.ofList rest) := by
    rw [← String.toList_inj]
    simp [same]
  rw [parts, String.utf8ByteSize_append, String.utf8ByteSize_append] at size
  have noSkipped : (String.ofList skipped).utf8ByteSize = 0 := by omega
  have noRest : (String.ofList rest).utf8ByteSize = 0 := by omega
  rw [String.utf8ByteSize_eq_zero_iff, ← String.toList_inj, String.toList_ofList] at noSkipped noRest
  exact ⟨noSkipped, noRest⟩

theorem callEntry_of_finds {entry : String} {found : List FoundCall}
    (finds : Finds entry.toList found) : callEntry entry = entryOfFound entry found := by
  by_cases whole : ∃ function field : String, IsCall function.toList field.toList entry.toList
  · obtain ⟨function, field, isCall⟩ := whole
    rw [finds.unique isCall.finds, callEntry_eq_aggregate_iff.mpr isCall, entryOfFound, if_pos rfl]
  · have notCall : ∀ function field, ¬ IsCall function field entry.toList := by
      intro function field isCall
      exact whole ⟨String.ofList function, String.ofList field, by simpa using isCall⟩
    generalize same : entry.toList = cs at finds
    cases finds with
    | none absent => exact callEntry_eq_malformedEntry_iff.mpr (same ▸ absent)
    | @next skipped rest call later isCall first others =>
      rw [callEntry_eq_ambiguousEntry_iff.mpr ⟨notCall, same ▸ isCall.hasCall skipped rest⟩]
      cases later with
      | cons => rfl
      | nil =>
        -- a call as long as the entry would be all of it
        rw [entryOfFound, if_neg]
        intro size
        obtain ⟨rfl, rfl⟩ := eq_nil_of_utf8ByteSize_eq same.symm size
        rw [List.nil_append, List.append_nil] at same
        exact notCall _ _ (same ▸ isCall)

/-- An entry is read as a call exactly where it is one from its first to its last character, with
the names of that call. It is ambiguous where it is no call and some part of it is, and malformed
where no part of it is. All of this is decided by the calls that a search from the left finds. -/
theorem callEntry_exact (text : String) :
    let entry := trim text
    (∀ function field, callEntry entry = .ok (.aggregate function field) ↔
      IsCall function.toList field.toList entry.toList) ∧
    (callEntry entry = .error (.ambiguousEntry entry) ↔
      (∀ function field, ¬ IsCall function field entry.toList) ∧ HasCall entry.toList) ∧
    (callEntry entry = .error (.malformedEntry entry) ↔ ¬ HasCall entry.toList) ∧
    ∃ found, (∀ other, Finds entry.toList other ↔ other = found) ∧
      callEntry entry = entryOfFound entry found := by
  intro entry
  obtain ⟨found, finds⟩ := exists_finds entry.toList
  refine ⟨fun function field => callEntry_eq_aggregate_iff, callEntry_eq_ambiguousEntry_iff,
    callEntry_eq_malformedEntry_iff, found, fun other => ⟨fun finds' => ?_, ?_⟩, ?_⟩
  · exact finds'.unique finds
  · rintro rfl
    exact finds
  · exact callEntry_of_finds finds

-- Text before a call, a second call, and a call inside something like one.
example : ∀ text ∈ ["a sum(b)", "min(a) max(b)", "f(sum(a))"],
    callEntry text = .error (.ambiguousEntry text) := by
  decide +kernel

end StreamPlan.Aggregation
