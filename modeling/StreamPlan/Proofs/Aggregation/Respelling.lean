import StreamPlan.Proofs.Aggregation.Pieces

/-! Entries are read from their words and marks. Which entries of a rule a text stands for depends on
the blanks of the text in one respect only: the fields of a key designator are read up to the end of
a line, so a line break among them is no blank like the others. -/

set_option autoImplicit false

namespace StreamPlan.Aggregation

open Text (isBlank isName isWordChar trim)

def listed (first : String) (rest : List String) : List Piece :=
  .word first.toList :: rest.flatMap fun name => [.mark ',', .word name.toList]

inductive ListsPieces : List Piece → List String → Prop where
  | one {name : String} (named : isName name = true) : ListsPieces [.word name.toList] [name]
  | tuple {first : String} {rest : List String}
      (named : ∀ name ∈ first :: rest, isName name = true) :
      ListsPieces (.mark '(' :: (listed first rest ++ [.mark ')'])) (first :: rest)

section

variable {cs tail : List Char} {pieces : List Piece}

theorem ne_nil_of_isName {name : String} (named : isName name = true) : name.toList ≠ [] := by
  simp only [isName, Bool.and_eq_true, Bool.not_eq_true', List.isEmpty_eq_false_iff] at named
  exact named.1

theorem isSolid_of_isName {name : String} (named : isName name = true) :
    ∀ c ∈ name.toList, isSolid c = true := by
  simp only [isName, Bool.and_eq_true, List.all_eq_true] at named
  exact fun c member => isSolid_of_isNameChar (named.2 c member)

theorem trim_blanks_word_blanks {front word back : List Char}
    (blankFront : ∀ c ∈ front, isBlank c = true) (solid : ∀ c ∈ word, isSolid c = true)
    (blankBack : ∀ c ∈ back, isBlank c = true) :
    trim (String.ofList (front ++ (word ++ back))) = String.ofList word := by
  rw [Text.trim_blanks_append blankFront, Text.trim_append_blanks _ blankBack]
  apply Text.IsTrimmed.trim_eq
  rw [String.toList_ofList]
  exact Text.isTrimmed_of_forall fun c member => (isSolid_eq_true_iff.mp (solid c member)).1

-- A member of a list and the mark behind it, from the text to the pieces and back.

theorem hasPieces_member_iff {member : List Char} {c : Char} (marked : isMark c = true)
    (named : isName (trim (String.ofList member)) = true) :
    HasPieces (member ++ c :: tail) pieces ↔ ∃ others,
      pieces = .word (trim (String.ofList member)).toList :: .mark c :: others ∧
        HasPieces tail others := by
  obtain ⟨front, back, blankFront, blankBack, whole⟩ :=
    Text.exists_append_trim_append (String.ofList member)
  rw [String.toList_ofList] at whole
  conv_lhs => rw [whole]
  rw [List.append_assoc, List.append_assoc, hasPieces_blanks_append_iff blankFront]
  exact hasPieces_word_mark_iff (ne_nil_of_isName named) (isSolid_of_isName named) blankBack marked

theorem exists_member {word : List Char} {c : Char}
    (spelled : HasPieces cs (.word word :: .mark c :: pieces)) :
    ∃ member rest, cs = member ++ c :: rest ∧ trim (String.ofList member) = String.ofList word ∧
      HasPieces rest pieces := by
  obtain ⟨-, solid⟩ := spelled.solid List.mem_cons_self
  obtain ⟨front, behind, blankFront, rfl, spelledMark⟩ := spelled.of_cons
  obtain ⟨back, rest, blankBack, rfl, spelledRest⟩ := spelledMark.of_cons
  exact ⟨front ++ (word ++ back), rest, by simp [Piece.chars],
    trim_blanks_word_blanks blankFront solid blankBack, spelledRest⟩

theorem hasPieces_members {first : List Char} {rest : List (List Char)}
    (named : ∀ member ∈ first :: rest, isName (trim (String.ofList member)) = true)
    (spelled : HasPieces ([','].intercalate (first :: rest) ++ ')' :: tail) pieces) :
    ∃ others, pieces = listed (trim (String.ofList first))
        (rest.map fun member => trim (String.ofList member)) ++ .mark ')' :: others ∧
      HasPieces tail others := by
  induction rest generalizing first pieces with
  | nil =>
    rw [List.intercalate_singleton,
      hasPieces_member_iff (by decide) (named first List.mem_cons_self)] at spelled
    exact spelled
  | cons second rest ih =>
    obtain ⟨namedFirst, namedRest⟩ := List.forall_mem_cons.mp named
    rw [List.intercalate_cons_cons, List.append_assoc, List.append_assoc, List.singleton_append,
      hasPieces_member_iff (by decide) namedFirst] at spelled
    obtain ⟨others, rfl, spelledRest⟩ := spelled
    obtain ⟨others, rfl, spelledTail⟩ := ih namedRest spelledRest
    exact ⟨others, rfl, spelledTail⟩

theorem exists_members {first : String} {rest : List String}
    (spelled : HasPieces cs (listed first rest ++ .mark ')' :: pieces)) :
    ∃ members tail, members ≠ [] ∧ cs = [','].intercalate members ++ ')' :: tail ∧
      (members.map fun member => trim (String.ofList member)) = first :: rest ∧
      HasPieces tail pieces := by
  induction rest generalizing first cs with
  | nil =>
    obtain ⟨member, tail, rfl, trimmed, spelledTail⟩ := exists_member spelled
    exact ⟨[member], tail, by simp, by simp, by simp [trimmed], spelledTail⟩
  | cons second rest ih =>
    obtain ⟨member, behind, rfl, trimmed, spelledRest⟩ := exists_member spelled
    obtain ⟨members, tail, nonempty, rfl, names, spelledTail⟩ := ih spelledRest
    obtain ⟨next, others, rfl⟩ := List.exists_cons_of_ne_nil nonempty
    refine ⟨member :: next :: others, tail, List.cons_ne_nil _ _, ?_, ?_, spelledTail⟩
    · simp [List.intercalate_cons_cons]
    · rw [List.map_cons, names, trimmed, String.ofList_toList]

theorem listsNames_iff {names : List String} (spelled : HasPieces cs pieces) :
    ListsNames (trim (String.ofList cs)).toList names ↔ ListsPieces pieces names := by
  constructor
  · intro lists
    have spelledTrim : HasPieces (trim (String.ofList cs)).toList pieces := by
      rwa [hasPieces_trim_iff, String.toList_ofList]
    generalize (trim (String.ofList cs)).toList = fields at lists spelledTrim
    cases lists with
    | @one name named =>
      have apart : ∀ c ∈ ([] : List Char).head?, isSolid c = false := by simp
      rw [← List.append_nil name.toList,
        hasPieces_append_iff_of_isSolid (ne_nil_of_isName named) (isSolid_of_isName named) apart]
        at spelledTrim
      obtain ⟨others, rfl, none⟩ := spelledTrim
      rw [hasPieces_nil_iff.mp none]
      exact .one named
    | @tuple members nonempty named =>
      obtain ⟨others, rfl, inside⟩ :=
        (hasPieces_cons_iff_of_isMark (by decide)).mp spelledTrim
      obtain ⟨first, rest, rfl⟩ := List.exists_cons_of_ne_nil nonempty
      obtain ⟨others, rfl, none⟩ := hasPieces_members named inside
      rw [hasPieces_nil_iff.mp none, List.map_cons]
      exact .tuple (by simpa using named)
  · intro lists
    cases lists with
    | @one name named =>
      obtain ⟨front, back, blankFront, rfl, none⟩ := spelled.of_cons
      rw [Piece.chars, trim_blanks_word_blanks blankFront (isSolid_of_isName named) none.of_nil,
        String.toList_ofList]
      exact .one named
    | @tuple first rest named =>
      obtain ⟨front, inside, blankFront, rfl, spelledInside⟩ := spelled.of_cons
      obtain ⟨members, back, nonempty, rfl, names, none⟩ := exists_members spelledInside
      have trimmed : trim (String.ofList ('(' :: ([','].intercalate members ++ [')']))) =
          String.ofList ('(' :: ([','].intercalate members ++ [')'])) := by
        apply Text.IsTrimmed.trim_eq
        rw [String.toList_ofList]
        exact Text.isTrimmed_of_ends not_isBlank_mark.1 not_isBlank_mark.2.1 _
      have whole : front ++ (Piece.chars (.mark '(') ++ ([','].intercalate members ++ ')' :: back)) =
          front ++ (('(' :: ([','].intercalate members ++ [')'])) ++ back) := by
        simp [Piece.chars]
      rw [whole, Text.trim_blanks_append blankFront, Text.trim_append_blanks _ none.of_nil, trimmed,
        String.toList_ofList, ← names]
      rw [← names, List.forall_mem_map] at named
      exact .tuple nonempty named

end

/-- What pieces spell: whether they are those of a key designator, and the entries of the rule that
they stand for. -/
inductive PiecesSpell : List Piece → Bool → List Entry → Prop where
  | designator {fields : List Piece} {names : List String} (lists : ListsPieces fields names) :
      PiecesSpell (.word ['k', 'e', 'y'] :: .mark ':' :: fields) true (names.map .key)
  | call {function field : List Char} (isFunction : IsWord function) (isField : IsWord field) :
      PiecesSpell [.word function, .mark '(', .word field, .mark ')'] false
        [.aggregate (String.ofList function) (String.ofList field)]

/-- A key designator whose fields go on behind a line break. -/
inductive IsBroken : List Char → Prop where
  | intro {blanks fields : List Char} (blank : ∀ c ∈ blanks, isBlank c = true)
      (broken : '\n' ∈ fields) : IsBroken ('k' :: 'e' :: 'y' :: (blanks ++ ':' :: fields))

section

variable {cs : List Char} {pieces : List Piece}

theorem hasPieces_key_iff {blanks fields : List Char} (blank : ∀ c ∈ blanks, isBlank c = true) :
    HasPieces ('k' :: 'e' :: 'y' :: (blanks ++ ':' :: fields)) pieces ↔
      ∃ others, pieces = .word ['k', 'e', 'y'] :: .mark ':' :: others ∧ HasPieces fields others :=
  @hasPieces_word_mark_iff ':' ['k', 'e', 'y'] fields blanks pieces (List.cons_ne_nil _ _)
    (List.all_eq_true.mp (by decide +kernel)) blank (by decide)

theorem IsBroken.designated?_eq_none (broken : IsBroken cs) : designated? cs = none := by
  cases broken with
  | @intro blanks fields blank broken =>
    have colon : ∀ c ∈ (':' :: fields).head?, isBlank c = false := by
      simpa using not_isBlank_mark.2.2
    simp [designated?, Text.dropWhile_append_stop blank colon, broken]

theorem IsBroken.exists_pieces (broken : IsBroken cs) (spelled : HasPieces cs pieces) :
    ∃ others, pieces = .word ['k', 'e', 'y'] :: .mark ':' :: others := by
  cases broken with
  | intro blank =>
    obtain ⟨others, same, -⟩ := (hasPieces_key_iff blank).mp spelled
    exact ⟨others, same⟩

theorem IsWord.isSolid (word : IsWord cs) : ∀ c ∈ cs, isSolid c = true :=
  fun c member => isSolid_of_isWordChar (word.word c member)

theorem IsCall.isTrimmed {function field : List Char} (isCall : IsCall function field cs) :
    Text.IsTrimmed cs := by
  cases isCall with
  | @intro before inside after isFunction isField =>
    obtain ⟨c, function, rfl⟩ := List.exists_cons_of_ne_nil isFunction.nonempty
    have ends := Text.isTrimmed_of_ends (isFunction.visible c List.mem_cons_self)
      not_isBlank_mark.2.1 (function ++ (before ++ '(' :: (inside ++ (field ++ after))))
    simpa using ends

theorem IsCall.hasPieces_eq {function field : List Char} (isCall : IsCall function field cs)
    (spelled : HasPieces cs pieces) :
    pieces = [.word function, .mark '(', .word field, .mark ')'] := by
  cases isCall with
  | intro isFunction isField blankBefore blankInside blankAfter =>
    obtain ⟨_, rfl, spelledField⟩ := (hasPieces_word_mark_iff isFunction.nonempty
      isFunction.isSolid blankBefore (by decide)).mp spelled
    rw [hasPieces_blanks_append_iff blankInside] at spelledField
    obtain ⟨_, rfl, none⟩ := (hasPieces_word_mark_iff isField.nonempty
      isField.isSolid blankAfter (by decide)).mp spelledField
    rw [hasPieces_nil_iff.mp none]

theorem isCall_of_hasPieces {function field : List Char} (isFunction : IsWord function)
    (isField : IsWord field) (trimmed : Text.IsTrimmed cs)
    (spelled : HasPieces cs [.word function, .mark '(', .word field, .mark ')']) :
    IsCall function field cs := by
  obtain ⟨front, _, blankFront, rfl, spelledOpening⟩ := spelled.of_cons
  obtain ⟨before, _, blankBefore, rfl, spelledField⟩ := spelledOpening.of_cons
  obtain ⟨inside, _, blankInside, rfl, spelledClosing⟩ := spelledField.of_cons
  obtain ⟨after, back, blankAfter, rfl, none⟩ := spelledClosing.of_cons
  have isCall : IsCall function field _ :=
    .intro isFunction isField blankBefore blankInside blankAfter
  -- nothing is left in front of the call or behind it
  have parts : front ++ ((Piece.word function).chars ++ (before ++ ((Piece.mark '(').chars ++
      (inside ++ ((Piece.word field).chars ++ (after ++ ((Piece.mark ')').chars ++ back))))))) =
      front ++ ((function ++ (before ++ '(' :: (inside ++ (field ++ (after ++ [')']))))) ++
        back) := by simp [Piece.chars]
  have whole := @Text.IsTrimmed.trim_eq (String.ofList _) (by rwa [String.toList_ofList])
  rw [parts, Text.trim_blanks_append blankFront, Text.trim_append_blanks _ none.of_nil,
    Text.IsTrimmed.trim_eq (by simpa using isCall.isTrimmed), String.ofList_inj] at whole
  rwa [parts, ← whole]

theorem IsDesignator.not_isBroken {fields : List Char} (designates : IsDesignator fields cs) :
    ¬ IsBroken cs := by
  intro broken
  have found := designated?_eq_some_iff.mpr designates
  rw [broken.designated?_eq_none] at found
  cases found

theorem IsCall.not_isBroken {function field : List Char} (isCall : IsCall function field cs) :
    ¬ IsBroken cs := by
  intro broken
  have spelled := hasPieces_piecesOf cs
  obtain ⟨others, same⟩ := broken.exists_pieces spelled
  rw [isCall.hasPieces_eq spelled] at same
  simp at same

/-- What a trimmed text spells is what its pieces spell, unless it is broken. -/
theorem spells_iff {isDesignator : Bool} {entries : List Entry} (trimmed : Text.IsTrimmed cs)
    (spelled : HasPieces cs pieces) :
    Spells cs isDesignator entries ↔ PiecesSpell pieces isDesignator entries ∧ ¬ IsBroken cs := by
  constructor
  · intro spells
    cases spells with
    | designator designates lists =>
      refine ⟨?_, designates.not_isBroken⟩
      cases designates with
      | intro blank line =>
        obtain ⟨others, rfl, spelledFields⟩ := (hasPieces_key_iff blank).mp spelled
        exact .designator ((listsNames_iff spelledFields).mp lists)
    | call isCall =>
      refine ⟨?_, isCall.not_isBroken⟩
      rw [isCall.hasPieces_eq spelled]
      cases isCall with
      | intro isFunction isField => exact .call isFunction isField
  · rintro ⟨spells, whole⟩
    cases spells with
    | designator lists =>
      obtain ⟨front, _, blankFront, rfl, spelledColon⟩ := spelled.of_cons
      obtain ⟨blanks, fields, blank, rfl, spelledFields⟩ := spelledColon.of_cons
      cases front with
      | cons c front =>
        have visible := trimmed.1 c rfl
        rw [blankFront c List.mem_cons_self] at visible
        cases visible
      | nil =>
        have line : '\n' ∉ fields := fun broken => whole (.intro blank broken)
        exact .designator (.intro blank line) ((listsNames_iff spelledFields).mpr lists)
    | call isFunction isField =>
      exact .call (isCall_of_hasPieces isFunction isField trimmed spelled)

end

theorem forall₂_append_cons_iff {α β : Type} {R : α → β → Prop} {x : α} {before after : List α}
    {ys : List β} :
    List.Forall₂ R (before ++ x :: after) ys ↔ ∃ front y back, ys = front ++ y :: back ∧
      List.Forall₂ R before front ∧ R x y ∧ List.Forall₂ R after back := by
  constructor
  · intro all
    induction before generalizing ys with
    | nil =>
      cases all with
      | cons first others => exact ⟨[], _, _, rfl, .nil, first, others⟩
    | cons a before ih =>
      cases all with
      | cons first others =>
        obtain ⟨front, y, back, rfl, all⟩ := ih others
        exact ⟨_ :: front, y, back, rfl, .cons first all.1, all.2⟩
  · rintro ⟨front, y, back, rfl, all, first, others⟩
    exact List.rel_append all (.cons first others)

section

variable {operation text text' : String} {before after : List String} {rule : Rule}

theorem exists_spells_of_parse (parsed : Rule.parse operation (before ++ text :: after) = .ok rule) :
    ∃ isDesignator entries, Spells (trim text).toList isDesignator entries := by
  obtain ⟨parts, spelled, -⟩ := (parse_eq_ok_iff.mp parsed).entries
  obtain ⟨-, part, -, -, -, spells, -⟩ := forall₂_append_cons_iff.mp spelled
  exact ⟨_, _, spells⟩

-- A text is exchanged for one that may have the same characters and spells the same.
theorem parse_exchange
    (allowed : (∀ c ∈ text.toList, AllowedChar c) → ∀ c ∈ text'.toList, AllowedChar c)
    (spells : ∀ isDesignator entries, Spells (trim text).toList isDesignator entries →
      Spells (trim text').toList isDesignator entries)
    (parsed : Rule.parse operation (before ++ text :: after) = .ok rule) :
    Rule.parse operation (before ++ text' :: after) = .ok rule := by
  obtain ⟨characters, known, parts, spelled, rest⟩ := parse_eq_ok_iff.mp parsed
  obtain ⟨front, part, back, rfl, spelledBefore, here, spelledAfter⟩ :=
    forall₂_append_cons_iff.mp spelled
  have exchanged := forall₂_append_cons_iff.mpr
    ⟨front, part, back, rfl, spelledBefore, spells _ _ here, spelledAfter⟩
  simp only [List.forall_mem_append, List.forall_mem_cons] at characters
  obtain ⟨allowedBefore, allowedText, allowedAfter⟩ := characters
  refine parse_eq_ok_iff.mpr ⟨?_, known, _, exchanged, rest⟩
  simp only [List.forall_mem_append, List.forall_mem_cons]
  exact ⟨allowedBefore, allowed allowedText, allowedAfter⟩

end

/-- Texts with the same pieces are accepted alike in every list of texts, and stand for the same
entries, whatever blanks they have. The exception is a key designator with a line break among its
fields: it is never accepted. -/
theorem parse_respelled {pieces : List Piece} {text text' : String}
    (spelled : HasPieces text.toList pieces) (spelled' : HasPieces text'.toList pieces) :
    (¬ IsBroken (trim text).toList → ¬ IsBroken (trim text').toList →
      ∀ operation before after rule,
        Rule.parse operation (before ++ text :: after) = .ok rule ↔
          Rule.parse operation (before ++ text' :: after) = .ok rule) ∧
    (IsBroken (trim text).toList →
      (∃ fields, pieces = .word ['k', 'e', 'y'] :: .mark ':' :: fields) ∧
      ∀ operation before after rule,
        Rule.parse operation (before ++ text :: after) ≠ .ok rule) := by
  have spells (isDesignator : Bool) (entries : List Entry) :=
    @spells_iff _ _ isDesignator entries (Text.isTrimmed_toList_trim text)
      (hasPieces_trim_iff.mpr spelled)
  have spells' (isDesignator : Bool) (entries : List Entry) :=
    @spells_iff _ _ isDesignator entries (Text.isTrimmed_toList_trim text')
      (hasPieces_trim_iff.mpr spelled')
  constructor
  · intro whole whole' operation before after rule
    have allowed := spelled.allowed_iff.trans spelled'.allowed_iff.symm
    have same (isDesignator : Bool) (entries : List Entry) :
        Spells (trim text).toList isDesignator entries ↔
          Spells (trim text').toList isDesignator entries := by
      rw [spells, spells', and_iff_left whole, and_iff_left whole']
    exact ⟨parse_exchange allowed.mp fun _ _ => (same _ _).mp,
      parse_exchange allowed.mpr fun _ _ => (same _ _).mpr⟩
  · intro broken
    refine ⟨broken.exists_pieces (hasPieces_trim_iff.mpr spelled), ?_⟩
    intro operation before after rule parsed
    obtain ⟨isDesignator, entries, read⟩ := exists_spells_of_parse parsed
    exact ((spells isDesignator entries).mp read).2 broken

/-- Blanks of several kinds in a key designator, none of them a line break among the fields. -/
theorem parse_respelled_blanks :
    let text := "key:(a,b)"
    let text' := "\n key \n:\t( a\u2028,\u3000b )\r\n"
    let pieces : List Piece := [.word ['k', 'e', 'y'], .mark ':', .mark '(', .word ['a'], .mark ',',
      .word ['b'], .mark ')']
    let rule : Rule := ⟨.reduceByKey, [.aggregate "max" "c", .key "a", .key "b"]⟩
    HasPieces text.toList pieces ∧ HasPieces text'.toList pieces ∧
      ¬ IsBroken (trim text).toList ∧ ¬ IsBroken (trim text').toList ∧
      Rule.parse "reduceByKey" ["max(c)", text] = .ok rule ∧
      Rule.parse "reduceByKey" ["max(c)", text'] = .ok rule := by
  intro text text' pieces rule
  have spelled : HasPieces text.toList pieces := by decide +kernel
  have spelled' : HasPieces text'.toList pieces := by decide +kernel
  have designates : designated? (trim text).toList = some "(a,b)".toList := by decide +kernel
  have designates' : designated? (trim text').toList = some "\t( a\u2028,\u3000b )".toList := by
    decide +kernel
  have whole := (designated?_eq_some_iff.mp designates).not_isBroken
  have whole' := (designated?_eq_some_iff.mp designates').not_isBroken
  have parsed : Rule.parse "reduceByKey" ["max(c)", text] = .ok rule := by decide +kernel
  obtain ⟨same, -⟩ := parse_respelled spelled spelled'
  exact ⟨spelled, spelled', whole, whole', parsed,
    (same whole whole' "reduceByKey" ["max(c)"] [] rule).mp parsed⟩

/-- A line break among the fields is the one blank that changes what is accepted. -/
theorem parse_brokenLine :
    let pieces : List Piece := [.word ['k', 'e', 'y'], .mark ':', .mark '(', .word ['a'], .mark ',',
      .word ['b'], .mark ')']
    HasPieces "key: (a, b)".toList pieces ∧ HasPieces "key: (a,\nb)".toList pieces ∧
      Rule.parse "reduceByKey" ["key: (a, b)"] = .ok ⟨.reduceByKey, [.key "a", .key "b"]⟩ ∧
      Rule.parse "reduceByKey" ["key: (a,\nb)"] = .error (.malformedEntry "key: (a,\nb)") := by
  decide +kernel

end StreamPlan.Aggregation
