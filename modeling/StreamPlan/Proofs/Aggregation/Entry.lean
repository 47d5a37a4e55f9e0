import StreamPlan.Aggregation.Parser
import StreamPlan.Proofs.Text.Class
import StreamPlan.Proofs.Text.Split
import StreamPlan.Proofs.Text.Trim

/-! The two forms of an aggregation entry, said without the parser, and that the parser accepts
exactly these. -/

set_option autoImplicit false

namespace StreamPlan.Aggregation

open Text (isBlank isName isNameChar isWordChar trim trimEnd trimStart)

structure IsWord (cs : List Char) : Prop where
  nonempty : cs ≠ []
  word : ∀ c ∈ cs, isWordChar c = true

/-- A function and, in parentheses, a field; blanks may stand around the parentheses. -/
inductive IsCall (function field : List Char) : List Char → Prop where
  | intro {before inside after : List Char} (isFunction : IsWord function) (isField : IsWord field)
      (blankBefore : ∀ c ∈ before, isBlank c = true) (blankInside : ∀ c ∈ inside, isBlank c = true)
      (blankAfter : ∀ c ∈ after, isBlank c = true) :
      IsCall function field
        (function ++ (before ++ '(' :: (inside ++ (field ++ (after ++ [')'])))))

theorem isWordChar_of_isBlank {c : Char} (blank : isBlank c = true) : isWordChar c = false := by
  apply Bool.eq_false_iff.mpr
  intro word
  rw [Text.isBlank_of_isWordChar word] at blank
  cases blank

theorem not_isWordChar_mark :
    isWordChar '(' = false ∧ isWordChar ')' = false ∧ isWordChar ':' = false := by
  decide +kernel

theorem not_isBlank_mark : isBlank '(' = false ∧ isBlank ')' = false ∧ isBlank ':' = false := by
  decide +kernel

theorem blank_takeWhile (cs : List Char) : ∀ c ∈ cs.takeWhile isBlank, isBlank c = true :=
  fun _ => List.mem_takeWhile_imp

theorem head?_blanks_mark (rest : List Char) {blanks : List Char} {c : Char}
    (blank : ∀ c ∈ blanks, isBlank c = true) (mark : isWordChar c = false) :
    ∀ d ∈ (blanks ++ c :: rest).head?, isWordChar d = false := by
  intro d first
  cases blanks with
  | nil =>
    obtain rfl : c = d := by simpa using first
    exact mark
  | cons b blanks =>
    obtain rfl : b = d := by simpa using first
    exact isWordChar_of_isBlank (blank b (by simp))

theorem isCall_of_leadingCall? {cs rest : List Char} {function field : String}
    (found : leadingCall? cs = some (function, field, rest)) :
    ∃ call, IsCall function.toList field.toList call ∧ cs = call ++ rest := by
  unfold leadingCall? at found
  dsimp only at found
  split at found
  · rename_i inside opened
    split at found
    · rename_i tail closed
      split at found
      · cases found
      · rename_i nonempty
        cases found
        simp only [Bool.or_eq_true, not_or, List.isEmpty_iff] at nonempty
        have isFunction : IsWord (cs.takeWhile isWordChar) :=
          ⟨nonempty.1, fun _ => List.mem_takeWhile_imp⟩
        have isField : IsWord ((inside.dropWhile isBlank).takeWhile isWordChar) :=
          ⟨nonempty.2, fun _ => List.mem_takeWhile_imp⟩
        rw [String.toList_ofList, String.toList_ofList]
        refine ⟨_, .intro isFunction isField (blank_takeWhile (cs.dropWhile isWordChar))
          (blank_takeWhile inside)
          (blank_takeWhile ((inside.dropWhile isBlank).dropWhile isWordChar)), ?_⟩
        -- each piece is followed by what was left when it was taken
        simp only [List.append_assoc, List.cons_append, List.nil_append]
        rw [← closed, List.takeWhile_append_dropWhile, List.takeWhile_append_dropWhile,
          List.takeWhile_append_dropWhile, ← opened, List.takeWhile_append_dropWhile,
          List.takeWhile_append_dropWhile]
    · cases found
  · cases found

theorem IsCall.leadingCall? {call function field : List Char} (isCall : IsCall function field call)
    (rest : List Char) :
    leadingCall? (call ++ rest) = some (String.ofList function, String.ofList field, rest) := by
  cases isCall with
  | @intro before inside after isFunction isField blankBefore blankInside blankAfter =>
    -- no piece of the call is followed by a character of its own kind
    have opening : ∀ c ∈ ('(' :: (inside ++ (field ++ (after ++ ')' :: rest)))).head?,
        isBlank c = false := by simpa using not_isBlank_mark.1
    have closing : ∀ c ∈ (')' :: rest).head?, isBlank c = false := by
      simpa using not_isBlank_mark.2.1
    have start : ∀ c ∈ (field ++ (after ++ ')' :: rest)).head?, isBlank c = false := by
      obtain ⟨c, tail, rfl⟩ := List.exists_cons_of_ne_nil isField.nonempty
      simpa using Text.isBlank_of_isWordChar (isField.word c (by simp))
    have functionEnd := head?_blanks_mark (inside ++ (field ++ (after ++ ')' :: rest)))
      blankBefore not_isWordChar_mark.1
    have fieldEnd := head?_blanks_mark rest blankAfter not_isWordChar_mark.2.1
    unfold Aggregation.leadingCall?
    simp only [List.append_assoc, List.cons_append, List.nil_append]
    rw [Text.takeWhile_append_stop isFunction.word functionEnd,
      Text.dropWhile_append_stop isFunction.word functionEnd,
      Text.dropWhile_append_stop blankBefore opening]
    simp only [Text.dropWhile_append_stop blankInside start,
      Text.takeWhile_append_stop isField.word fieldEnd,
      Text.dropWhile_append_stop isField.word fieldEnd,
      Text.dropWhile_append_stop blankAfter closing]
    simp [isFunction.nonempty, isField.nonempty]

theorem callEntry_eq_ok_iff {entry : String} {aggregation : Entry} :
    callEntry entry = .ok aggregation ↔ ∃ function field,
      IsCall function field entry.toList ∧
        aggregation = .aggregate (String.ofList function) (String.ofList field) := by
  constructor
  · intro parsed
    unfold callEntry at parsed
    split at parsed
    · rename_i function field found
      cases parsed
      obtain ⟨call, isCall, same⟩ := isCall_of_leadingCall? found
      rw [List.append_nil] at same
      rw [same]
      exact ⟨_, _, isCall, by simp⟩
    · split at parsed <;> cases parsed
  · rintro ⟨function, field, isCall, rfl⟩
    have found := isCall.leadingCall? []
    rw [List.append_nil] at found
    simp [callEntry, found]

inductive IsDesignator (fields : List Char) : List Char → Prop where
  | intro {blanks : List Char} (blank : ∀ c ∈ blanks, isBlank c = true) (line : '\n' ∉ fields) :
      IsDesignator fields ('k' :: 'e' :: 'y' :: (blanks ++ ':' :: fields))

/-- The fields of a designator, trimmed: one name, or in parentheses one or more that have commas
between them and perhaps blanks around them. -/
inductive ListsNames : List Char → List String → Prop where
  | one {name : String} (named : isName name = true) : ListsNames name.toList [name]
  | tuple {pieces : List (List Char)} (nonempty : pieces ≠ [])
      (named : ∀ piece ∈ pieces, isName (trim (String.ofList piece)) = true) :
      ListsNames ('(' :: ([','].intercalate pieces ++ [')']))
        (pieces.map fun piece => trim (String.ofList piece))

theorem designated?_eq_some_iff {entry fields : List Char} :
    designated? entry = some fields ↔ IsDesignator fields entry := by
  constructor
  · intro found
    unfold designated? at found
    split at found
    · rename_i rest
      split at found
      · rename_i marked
        split at found
        · cases found
        · rename_i line
          cases found
          rw [← List.takeWhile_append_dropWhile (p := isBlank) (l := rest), marked]
          exact .intro (blank_takeWhile rest) (by simpa using line)
      · cases found
    · cases found
  · intro designator
    cases designator with
    | @intro blanks blank line =>
      have colon : ∀ c ∈ (':' :: fields).head?, isBlank c = false := by
        simpa using not_isBlank_mark.2.2
      simp [designated?, Text.dropWhile_append_stop blank colon, line]

theorem designated?_eq_none_iff {entry : List Char} :
    designated? entry = none ↔ ∀ fields, ¬ IsDesignator fields entry := by
  rw [Option.eq_none_iff_forall_ne_some]
  exact forall_congr' fun fields => not_congr designated?_eq_some_iff

-- A call has no colon.
theorem IsCall.not_isDesignator {call function field fields : List Char}
    (isCall : IsCall function field call) : ¬ IsDesignator fields call := by
  intro designator
  have member : ':' ∈ call := by cases designator; simp
  have notWord : ∀ {cs : List Char}, IsWord cs → ':' ∉ cs := by
    intro cs word inside
    have := word.word ':' inside
    rw [not_isWordChar_mark.2.2] at this
    cases this
  have notBlank : ∀ {cs : List Char}, (∀ c ∈ cs, isBlank c = true) → ':' ∉ cs := fun blank =>
    Text.not_mem_of_visible blank not_isBlank_mark.2.2
  cases isCall with
  | intro isFunction isField blankBefore blankInside blankAfter =>
    simp [notWord isFunction, notWord isField, notBlank blankBefore, notBlank blankInside,
      notBlank blankAfter] at member

theorem mem_intercalate {c separator : Char} {pieces : List (List Char)}
    (member : c ∈ [separator].intercalate pieces) :
    c = separator ∨ ∃ piece ∈ pieces, c ∈ piece := by
  induction pieces with
  | nil => cases member
  | cons first rest ih =>
    cases rest with
    | nil => exact Or.inr ⟨first, by simp, by simpa using member⟩
    | cons second rest =>
      rw [List.intercalate_cons_cons, List.append_assoc, List.mem_append, List.mem_append,
        List.mem_singleton] at member
      rcases member with here | rfl | later
      · exact Or.inr ⟨first, by simp, here⟩
      · exact Or.inl rfl
      · rcases ih later with same | ⟨piece, inside, here⟩
        · exact Or.inl same
        · exact Or.inr ⟨piece, List.mem_cons_of_mem _ inside, here⟩

theorem not_isNameChar_mark :
    isNameChar '(' = false ∧ isNameChar ')' = false ∧ isNameChar ',' = false := by
  decide +kernel

theorem count_eq_zero_of_isName {name : String} (named : isName name = true) {mark : Char}
    (other : isNameChar mark = false) : name.toList.count mark = 0 := by
  simp only [isName, Bool.and_eq_true, List.all_eq_true] at named
  apply List.count_eq_zero.mpr
  intro member
  rw [named.2 mark member] at other
  cases other

theorem not_mem_piece {piece : List Char} (named : isName (trim (String.ofList piece)) = true)
    {mark : Char} (visible : isBlank mark = false) (other : isNameChar mark = false) :
    mark ∉ piece := by
  intro member
  have absent := List.count_eq_zero.mp (count_eq_zero_of_isName named other)
  exact absent (Text.mem_trim (by rwa [String.toList_ofList]) visible)

-- The parentheses of a list of names balance.
theorem ListsNames.balanced {fields : List Char} {names : List String}
    (lists : ListsNames fields names) : fields.count '(' = fields.count ')' := by
  cases lists with
  | one named =>
    rw [count_eq_zero_of_isName named not_isNameChar_mark.1,
      count_eq_zero_of_isName named not_isNameChar_mark.2.1]
  | @tuple pieces nonempty named =>
    have inside {mark : Char} (visible : isBlank mark = false) (other : isNameChar mark = false)
        (notComma : mark ≠ ',') : ([','].intercalate pieces).count mark = 0 := by
      apply List.count_eq_zero.mpr
      intro member
      rcases mem_intercalate member with same | ⟨piece, isPiece, here⟩
      · exact notComma same
      · exact not_mem_piece (named piece isPiece) visible other here
    have opening := inside not_isBlank_mark.1 not_isNameChar_mark.1 (by decide)
    have closing := inside not_isBlank_mark.2.1 not_isNameChar_mark.2.1 (by decide)
    simp [opening, closing]

theorem parenthesised?_eq_some_iff {cs inner : List Char} :
    parenthesised? cs = some inner ↔ cs = '(' :: (inner ++ [')']) := by
  constructor
  · intro found
    unfold parenthesised? at found
    split at found
    · rename_i rest
      split at found
      · rename_i last
        cases found
        rw [List.dropLast_append_getLast? ')' last]
      · cases found
    · cases found
  · rintro rfl
    simp [parenthesised?]

theorem listsNames_keyNames {fields : List Char}
    (named : ∀ name ∈ keyNames fields, isName name = true) :
    ListsNames fields (keyNames fields) := by
  unfold keyNames at named ⊢
  split at named
  · rename_i inner parenthesised
    rw [parenthesised?_eq_some_iff.mp parenthesised]
    have lists := @ListsNames.tuple (inner.splitOn ',') (List.splitOn_ne_nil ',' inner)
      (List.forall_mem_map.mp named)
    rwa [List.intercalate_splitOn] at lists
  · have lists := ListsNames.one (named (String.ofList fields) (by simp))
    rwa [String.toList_ofList] at lists

theorem ListsNames.keyNames_eq {fields : List Char} {names : List String}
    (lists : ListsNames fields names) : keyNames fields = names := by
  unfold keyNames
  cases lists with
  | @one name named =>
    -- a name has no parenthesis
    cases parenthesised : parenthesised? name.toList with
    | none => simp
    | some inner =>
      have absent := count_eq_zero_of_isName named not_isNameChar_mark.1
      rw [parenthesised?_eq_some_iff.mp parenthesised] at absent
      simp at absent
  | @tuple pieces nonempty named =>
    have noComma : ∀ piece ∈ pieces, ',' ∉ piece := fun piece member =>
      not_mem_piece (named piece member) (by decide +kernel) not_isNameChar_mark.2.2
    rw [parenthesised?_eq_some_iff.mpr rfl]
    dsimp only
    rw [List.splitOn_intercalate ',' noComma nonempty]

theorem ListsNames.named {fields : List Char} {names : List String}
    (lists : ListsNames fields names) : ∀ name ∈ names, isName name = true := by
  cases lists with
  | one named => simpa using named
  | tuple nonempty named => exact List.forall_mem_map.mpr named

theorem keyFields_eq_ok_iff {entry : String} {fields : List Char} {names : List String} :
    keyFields entry fields = .ok names ↔
      ListsNames (trim (String.ofList fields)).toList names := by
  unfold keyFields
  dsimp only
  constructor
  · intro read
    split at read
    · cases read
    · split at read
      · rename_i named
        cases read
        exact listsNames_keyNames (List.all_eq_true.mp named)
      · cases read
  · intro lists
    rw [if_neg (not_not_intro lists.balanced), lists.keyNames_eq,
      if_pos (List.all_eq_true.mpr lists.named)]

/-- What a trimmed entry spells: whether it is a key designator, and the entries of the rule that
it stands for. -/
inductive Spells (text : List Char) : Bool → List Entry → Prop where
  | designator {fields : List Char} {names : List String} (designates : IsDesignator fields text)
      (lists : ListsNames (trim (String.ofList fields)).toList names) :
      Spells text true (names.map .key)
  | call {function field : List Char} (isCall : IsCall function field text) :
      Spells text false [.aggregate (String.ofList function) (String.ofList field)]

theorem parseEntry_eq_ok_iff {text : String} {parsed : Bool × List Entry} :
    parseEntry text = .ok parsed ↔ Spells (trim text).toList parsed.1 parsed.2 := by
  obtain ⟨isDesignator, entries⟩ := parsed
  unfold parseEntry
  dsimp only
  constructor
  · intro read
    split at read
    · rename_i fields designates
      cases names : keyFields (trim text) fields with
      | error reason =>
        rw [names] at read
        cases read
      | ok names' =>
        rw [names] at read
        cases read
        exact .designator (designated?_eq_some_iff.mp designates) (keyFields_eq_ok_iff.mp names)
    · cases called : callEntry (trim text) with
      | error reason =>
        rw [called] at read
        cases read
      | ok aggregation =>
        rw [called] at read
        cases read
        obtain ⟨function, field, isCall, rfl⟩ := callEntry_eq_ok_iff.mp called
        exact .call isCall
  · intro spells
    cases spells with
    | designator designates lists =>
      rw [designated?_eq_some_iff.mpr designates]
      simp [keyFields_eq_ok_iff.mpr lists, Except.map]
    | @call function field isCall =>
      have notDesignator : designated? (trim text).toList = none :=
        designated?_eq_none_iff.mpr fun _ => isCall.not_isDesignator
      rw [notDesignator]
      simp [callEntry_eq_ok_iff.mpr ⟨function, field, isCall, rfl⟩, Except.map]

end StreamPlan.Aggregation
