import StreamPlan.Proofs.Aggregation.Shape

/-! The names that a field may have as an aggregated field and as a key. As an aggregated field it may
have any word for a name; as a key, no word with a character in it that attaches to a letter or joins
two and is neither a letter nor the underscore. -/

set_option autoImplicit false

namespace StreamPlan.Aggregation

open Text (connectorRanges isBlank isName isNameChar isWordChar joinControlRanges markRanges trim)

/-- A mark, connector or joiner that names do not have. -/
def IsAttached (c : Char) : Prop :=
  isNameChar c = false ∧ (markRanges.contains c.toNat = true ∨
    connectorRanges.contains c.toNat = true ∨ joinControlRanges.contains c.toNat = true)

-- Letters and digits are in names, so the other classes of word characters remain.
theorem isNameChar_iff_of_isWordChar {c : Char} (word : isWordChar c = true) :
    isNameChar c = true ↔ ¬ IsAttached c := by
  constructor
  · rintro named ⟨unnamed, -⟩
    rw [named] at unnamed
    cases unnamed
  · intro loose
    by_contra unnamed
    simp only [isWordChar, Bool.and_eq_true, Bool.or_eq_true] at word
    obtain ⟨(((letter | mark) | digit) | connector) | joiner, -⟩ := word
    · exact unnamed (by simp [isNameChar, letter])
    · exact loose ⟨by simpa using unnamed, Or.inl mark⟩
    · exact unnamed (Text.isNameChar_of_decimalDigit digit)
    · exact loose ⟨by simpa using unnamed, Or.inr (Or.inl connector)⟩
    · exact loose ⟨by simpa using unnamed, Or.inr (Or.inr joiner)⟩

section

variable {name : String}

theorem IsWord.isName_iff (word : IsWord name.toList) :
    isName name = true ↔ ∀ c ∈ name.toList, ¬ IsAttached c := by
  have nonempty : name.toList.isEmpty = false := by simpa using word.nonempty
  rw [isName, nonempty, Bool.not_false, Bool.true_and, List.all_eq_true]
  exact forall₂_congr fun c member => isNameChar_iff_of_isWordChar (word.word c member)

theorem Rule.IsShaped.isSpelled {rule : Rule} (shaped : rule.IsShaped) :
    ∀ entry ∈ rule.entries, entry.IsSpelled := by
  cases shaped with
  | reduce spelled => exact spelled
  | reduceByKey spelled => exact spelled

theorem parse_sum_iff :
    Rule.parse "reduce" ["sum(" ++ name ++ ")"] = .ok ⟨.reduce, [.aggregate "sum" name]⟩ ↔
      IsWord name.toList := by
  constructor
  · intro parsed
    cases (isShaped_of_parse parsed).isSpelled _ List.mem_cons_self with
    | aggregate _ isField => exact isField
  · intro isField
    have isFunction : IsWord "sum".toList := by decide +kernel
    have written : (Entry.aggregate "sum" name).render = "sum(" ++ name ++ ")" := rfl
    have writes := (Entry.IsSpelled.aggregate isFunction isField).writes rfl
    rw [written] at writes
    exact parse_eq_ok_iff.mpr (@spellsOut_of_writes ⟨.reduce, [.aggregate "sum" name]⟩ _ _
      (.cons writes .nil) (Or.inl rfl) rfl rfl)

theorem writes_key (word : IsWord name.toList) (named : isName name = true) :
    Writes ("key: " ++ name) (true, [.key name]) := by
  have whole : ("key: " ++ name).toList =
      'k' :: 'e' :: 'y' :: ([] ++ ':' :: ' ' :: name.toList) := by simp
  have line : '\n' ∉ ' ' :: name.toList := by
    intro member
    have inside : '\n' ∈ name.toList := by simpa using member
    have visible := word.visible '\n' inside
    revert visible
    decide
  have trimmed : trim (String.ofList (' ' :: name.toList)) = name := by
    rw [Text.trim_cons_blank (by decide), String.ofList_toList, word.isTrimmed.trim_eq]
  refine ⟨?_, ?_, ?_⟩
  · have ends := Text.isTrimmed_of_ends (by decide +kernel : isBlank 'k' = false)
      (word.visible _ (List.getLast_mem word.nonempty))
      ('e' :: 'y' :: ':' :: ' ' :: name.toList.dropLast)
    rw [List.cons_append, List.cons_append, List.cons_append, List.cons_append,
      List.dropLast_append_getLast] at ends
    rw [whole]
    exact ends
  · rw [whole]
    have lists : ListsNames (trim (String.ofList (' ' :: name.toList))).toList [name] := by
      rw [trimmed]
      exact .one named
    exact .designator (.intro (List.forall_mem_nil _) line) lists
  · rw [whole]
    have front : ['k', 'e', 'y', ':', ' '].all isEntryChar = true := by decide +kernel
    exact List.forall_mem_append.mpr
      ⟨fun c inside => isEntryChar_iff.mp (List.all_eq_true.mp front c inside), word.allowed⟩

theorem parse_key_iff :
    Rule.parse "reduceByKey" ["key: " ++ name] = .ok ⟨.reduceByKey, [.key name]⟩ ↔
      IsWord name.toList ∧ isName name = true := by
  constructor
  · intro parsed
    cases (isShaped_of_parse parsed).isSpelled _ List.mem_cons_self with
    | key word named => exact ⟨word, named⟩
  · rintro ⟨word, named⟩
    exact parse_eq_ok_iff.mpr (@spellsOut_of_writes ⟨.reduceByKey, [.key name]⟩ _ _
      (.cons (writes_key word named) .nil) (Or.inr rfl) rfl rfl)

end

/-- A field with a name can be summed exactly if the name is a word. It can be a key exactly if it
can be summed and has no mark, connector or joiner that names do not have. -/
theorem fieldName_accepted_iff (name : String) :
    (Rule.parse "reduce" ["sum(" ++ name ++ ")"] = .ok ⟨.reduce, [.aggregate "sum" name]⟩ ↔
      IsWord name.toList) ∧
    (Rule.parse "reduceByKey" ["key: " ++ name] = .ok ⟨.reduceByKey, [.key name]⟩ ↔
      Rule.parse "reduce" ["sum(" ++ name ++ ")"] = .ok ⟨.reduce, [.aggregate "sum" name]⟩ ∧
        ∀ c ∈ name.toList, ¬ IsAttached c) := by
  refine ⟨parse_sum_iff, ?_⟩
  rw [parse_key_iff, parse_sum_iff]
  exact and_congr_right IsWord.isName_iff

/-- A letter with an accent that is a character of its own. -/
theorem combiningAccent_no_key :
    let name := "a\u0301"
    Rule.parse "reduce" ["sum(" ++ name ++ ")"] = .ok ⟨.reduce, [.aggregate "sum" name]⟩ ∧
      Rule.parse "reduceByKey" ["key: " ++ name] = .error (.malformedEntry ("key: " ++ name)) := by
  decide +kernel

end StreamPlan.Aggregation
