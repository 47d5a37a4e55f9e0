import StreamPlan.Proofs.Aggregation.Compile

/-! The shape of the rules that texts spell out: which operations, names and orders of entries there
are. Every rule of this shape has texts of its own that are parsed as the rule. Only the designators
are counted when a rule is parsed; that its keys stand together follows, since one designator makes
all of them. -/

set_option autoImplicit false

namespace StreamPlan.Aggregation

open Text (isBlank isName isNameChar isWordChar trim)

instance (cs : List Char) : Decidable (IsWord cs) :=
  decidable_of_iff (cs ≠ [] ∧ cs.all isWordChar = true)
    ⟨fun ⟨nonempty, all⟩ => ⟨nonempty, List.all_eq_true.mp all⟩,
      fun word => ⟨word.nonempty, List.all_eq_true.mpr word.word⟩⟩

/-- A key without a function, or a field with the function that aggregates it. Names are words, and
those of keys names as well. -/
inductive Entry.IsSpelled : Entry → Prop where
  | key {field : String} (isWord : IsWord field.toList) (named : isName field = true) :
      IsSpelled (.key field)
  | aggregate {function field : String} (isFunction : IsWord function.toList)
      (isField : IsWord field.toList) : IsSpelled (.aggregate function field)

/-- No keys for `reduce`, and for `reduceByKey` one block of keys among the aggregations. -/
inductive Rule.IsShaped : Rule → Prop where
  | reduce {entries : List Entry} (spelled : ∀ entry ∈ entries, entry.IsSpelled)
      (noKey : ∀ entry ∈ entries, entry.isKey = false) : IsShaped ⟨.reduce, entries⟩
  | reduceByKey {before keys after : List Entry}
      (spelled : ∀ entry ∈ before ++ (keys ++ after), entry.IsSpelled) (nonempty : keys ≠ [])
      (isBlock : ∀ entry ∈ keys, entry.isKey = true)
      (noOther : ∀ entry ∈ before ++ after, entry.isKey = false) :
      IsShaped ⟨.reduceByKey, before ++ (keys ++ after)⟩

def designator (keys : List Entry) : String :=
  "key: (" ++ ", ".intercalate (keys.map (·.field)) ++ ")"

def Rule.texts (rule : Rule) : List String :=
  let before := rule.entries.takeWhile (!·.isKey)
  let others := rule.entries.dropWhile (!·.isKey)
  let keys := others.takeWhile (·.isKey)
  let after := others.dropWhile (·.isKey)
  before.map Entry.render ++ (if keys.isEmpty then [] else [designator keys]) ++
    after.map Entry.render

/-! What is spelled has this shape. -/

theorem not_isNameChar_colon : isNameChar ':' = false := by decide +kernel

theorem isWordChar_of_allowed {c : Char} (allowed : AllowedChar c) (named : isNameChar c = true) :
    isWordChar c = true := by
  rcases allowed with word | blank | rfl | rfl | rfl | rfl
  · exact word
  · rw [Text.isBlank_of_isNameChar named] at blank
    cases blank
  · rw [not_isNameChar_mark.1] at named
    cases named
  · rw [not_isNameChar_mark.2.1] at named
    cases named
  · rw [not_isNameChar_mark.2.2] at named
    cases named
  · rw [not_isNameChar_colon] at named
    cases named

theorem isWord_of_isName {name : String} (named : isName name = true)
    (allowed : ∀ c ∈ name.toList, AllowedChar c) : IsWord name.toList := by
  simp only [isName, Bool.and_eq_true, Bool.not_eq_true', List.isEmpty_eq_false_iff,
    List.all_eq_true] at named
  exact ⟨named.1, fun c member => isWordChar_of_allowed (allowed c member) (named.2 c member)⟩

theorem subset_intercalate {piece separator : List Char} {pieces : List (List Char)}
    (member : piece ∈ pieces) : piece ⊆ separator.intercalate pieces := by
  induction pieces with
  | nil => cases member
  | cons first rest ih =>
    cases rest with
    | nil => simp_all
    | cons second rest =>
      rw [List.intercalate_cons_cons]
      rcases List.mem_cons.mp member with rfl | later
      · intro c inside
        simp [inside]
      · intro c inside
        simp [ih later inside]

theorem ListsNames.subset {fields : List Char} {names : List String}
    (lists : ListsNames fields names) : ∀ name ∈ names, name.toList ⊆ fields := by
  cases lists with
  | one named => simp
  | @tuple pieces nonempty named =>
    rw [List.forall_mem_map]
    intro piece member c inside
    have whole := Text.mem_of_mem_trim inside
    rw [String.toList_ofList] at whole
    simp [subset_intercalate member whole]

theorem ListsNames.ne_nil {fields : List Char} {names : List String}
    (lists : ListsNames fields names) : names ≠ [] := by
  cases lists with
  | one named => exact List.cons_ne_nil _ _
  | tuple nonempty named => simpa using nonempty

structure IsPart (part : Bool × List Entry) : Prop where
  spelled : ∀ entry ∈ part.2, entry.IsSpelled
  keys : ∀ entry ∈ part.2, entry.isKey = part.1
  nonempty : part.2 ≠ []

theorem Spells.isPart {text : List Char} {part : Bool × List Entry}
    (spells : Spells text part.1 part.2) (allowed : ∀ c ∈ text, AllowedChar c) : IsPart part := by
  obtain ⟨isDesignator, entries⟩ := part
  cases spells with
  | @designator fields names designates lists =>
    have within : fields ⊆ text := by
      cases designates
      intro c inside
      simp [inside]
    refine ⟨List.forall_mem_map.mpr fun name member => ?_, by simp [Entry.key], ?_⟩
    · have named := lists.named name member
      refine .key (isWord_of_isName named fun c inside => allowed c (within ?_)) named
      have trimmed := lists.subset name member inside
      simpa using Text.mem_of_mem_trim trimmed
    · simpa using lists.ne_nil
  | @call function field isCall =>
    refine ⟨?_, by simp [Entry.aggregate], List.cons_ne_nil _ _⟩
    cases isCall with
    | intro isFunction isField =>
      rw [List.forall_mem_singleton]
      exact .aggregate (by simpa using isFunction) (by simpa using isField)

theorem isPart_of_spells {texts : List String} {parts : List (Bool × List Entry)}
    (characters : ∀ text ∈ texts, ∀ c ∈ text.toList, AllowedChar c)
    (spelled : List.Forall₂ (fun text part => Spells (trim text).toList part.1 part.2)
      texts parts) : ∀ part ∈ parts, IsPart part := by
  have both := (List.forall₂_and_left texts parts).mpr ⟨characters, spelled⟩
  have each := both.imp fun text part ⟨allowed, spells⟩ =>
    And.intro (spells.isPart fun c inside => allowed c (Text.mem_of_mem_trim inside)) spells
  exact ((List.forall₂_and_left parts texts).mp each.flip).1

theorem exists_of_countP_eq_one {α : Type} {p : α → Bool} {xs : List α} (one : xs.countP p = 1) :
    ∃ before x after, xs = before ++ x :: after ∧ p x = true ∧
      ∀ y ∈ before ++ after, p y = false := by
  have some : 0 < xs.countP p := by omega
  obtain ⟨x, member, holds⟩ := List.countP_pos_iff.mp some
  obtain ⟨before, after, rfl⟩ := List.append_of_mem member
  refine ⟨before, x, after, rfl, holds, ?_⟩
  have none : (before ++ after).countP p = 0 := by
    simp only [List.countP_append, List.countP_cons_of_pos holds] at one ⊢
    omega
  simpa using List.countP_eq_zero.mp none

theorem isKey_flatMap {parts : List (Bool × List Entry)} (each : ∀ part ∈ parts, IsPart part)
    (noDesignator : ∀ part ∈ parts, part.1 = false) :
    ∀ entry ∈ parts.flatMap (·.2), entry.isKey = false := by
  intro entry member
  obtain ⟨part, isPart, inside⟩ := List.mem_flatMap.mp member
  rw [(each part isPart).keys entry inside, noDesignator part isPart]

theorem isShaped_of_parse {operation : String} {texts : List String} {rule : Rule}
    (parsed : Rule.parse operation texts = .ok rule) : rule.IsShaped := by
  obtain ⟨characters, known, parts, spelled, designators, entries⟩ := parse_eq_ok_iff.mp parsed
  have each := isPart_of_spells characters spelled
  have spelledEach : ∀ entry ∈ rule.entries, entry.IsSpelled := by
    rw [entries]
    intro entry member
    obtain ⟨part, isPart, inside⟩ := List.mem_flatMap.mp member
    exact (each part isPart).spelled entry inside
  obtain ⟨op, all⟩ := rule
  rcases known with ⟨-, rfl⟩ | ⟨-, rfl⟩
  · have noDesignator : ∀ part ∈ parts, part.1 = false := by
      simpa using List.countP_eq_zero.mp designators
    refine .reduce spelledEach ?_
    obtain rfl : all = _ := entries
    exact isKey_flatMap each noDesignator
  · -- the one designator makes the block, and every text before and after it one aggregation
    obtain ⟨before, block, after, rfl, isBlock, others⟩ := exists_of_countP_eq_one designators
    obtain ⟨eachBefore, eachBlock, eachAfter⟩ :
        (∀ part ∈ before, IsPart part) ∧ IsPart block ∧ ∀ part ∈ after, IsPart part := by
      simpa [or_imp, forall_and] using each
    obtain ⟨noneBefore, noneAfter⟩ := List.forall_mem_append.mp others
    have split : all = before.flatMap (·.2) ++ (block.2 ++ after.flatMap (·.2)) := by
      simpa using entries
    subst split
    refine .reduceByKey spelledEach eachBlock.nonempty ?_ ?_
    · intro entry inside
      rw [eachBlock.keys entry inside, isBlock]
    · exact List.forall_mem_append.mpr
        ⟨isKey_flatMap eachBefore noneBefore, isKey_flatMap eachAfter noneAfter⟩

/-! What has this shape is spelled by its texts. -/

theorem intercalate_cons_append (separator : List Char) (c : Char) (first : List Char)
    (rest : List (List Char)) :
    separator.intercalate ((c :: first) :: rest) = c :: separator.intercalate (first :: rest) := by
  cases rest with
  | nil => simp
  | cons second rest => simp [List.intercalate_cons_cons]

theorem intercalate_comma_blank (first : List Char) (rest : List (List Char)) :
    [',', ' '].intercalate (first :: rest) =
      [','].intercalate (first :: rest.map (' ' :: ·)) := by
  induction rest generalizing first with
  | nil => simp
  | cons second rest ih =>
    rw [List.intercalate_cons_cons, ih, List.map_cons, List.intercalate_cons_cons,
      intercalate_cons_append]
    simp

theorem IsWord.allowed {cs : List Char} (word : IsWord cs) : ∀ c ∈ cs, AllowedChar c :=
  fun c member => Or.inl (word.word c member)

theorem IsWord.visible {cs : List Char} (word : IsWord cs) : ∀ c ∈ cs, isBlank c = false :=
  fun c member => Text.isBlank_of_isWordChar (word.word c member)

theorem IsWord.isTrimmed {cs : List Char} (word : IsWord cs) : Text.IsTrimmed cs :=
  Text.isTrimmed_of_forall word.visible

def commas (names : List String) : List Char := [',', ' '].intercalate (names.map String.toList)

section

variable {names : List String}

theorem listsNames_commas (nonempty : names ≠ [])
    (words : ∀ name ∈ names, IsWord name.toList) (named : ∀ name ∈ names, isName name = true) :
    ListsNames ('(' :: (commas names ++ [')'])) names := by
  obtain ⟨first, rest, rfl⟩ := List.exists_cons_of_ne_nil nonempty
  have trimmed : ∀ name ∈ first :: rest, trim (String.ofList name.toList) = name := by
    intro name member
    rw [String.ofList_toList]
    exact (words name member).isTrimmed.trim_eq
  obtain ⟨trimmedFirst, trimmedRest⟩ := List.forall_mem_cons.mp trimmed
  have readRest : rest.map (fun name => trim (String.ofList (' ' :: name.toList))) = rest := by
    have each : ∀ name ∈ rest, trim (String.ofList (' ' :: name.toList)) = id name :=
      fun name member => (Text.trim_cons_blank (by decide) _).trans (trimmedRest name member)
    rw [List.map_congr_left each, List.map_id]
  have read : (first.toList :: (rest.map String.toList).map (' ' :: ·)).map
      (fun piece => trim (String.ofList piece)) = first :: rest := by
    simp only [List.map_cons, List.map_map, trimmedFirst, Function.comp_def, readRest]
  rw [commas, List.map_cons, intercalate_comma_blank, ← read]
  rw [← read, List.forall_mem_map] at named
  exact .tuple (List.cons_ne_nil _ _) named

theorem characters_commas (words : ∀ name ∈ names, IsWord name.toList) {c : Char}
    (member : c ∈ commas names) : isWordChar c = true ∨ c = ' ' ∨ c = ',' := by
  cases names with
  | nil => cases member
  | cons first rest =>
    obtain ⟨wordFirst, wordRest⟩ := List.forall_mem_cons.mp words
    rw [commas, List.map_cons, intercalate_comma_blank] at member
    rcases mem_intercalate member with comma | ⟨piece, isPiece, inside⟩
    · exact Or.inr (Or.inr comma)
    · simp only [List.mem_cons, List.mem_map, List.map_map, Function.comp_apply] at isPiece
      rcases isPiece with rfl | ⟨name, isName, rfl⟩
      · exact Or.inl (wordFirst.word c inside)
      · rcases List.mem_cons.mp inside with blank | inside
        · exact Or.inr (Or.inl blank)
        · exact Or.inl ((wordRest name isName).word c inside)

theorem allowed_commas (words : ∀ name ∈ names, IsWord name.toList) :
    ∀ c ∈ commas names, AllowedChar c := by
  intro c member
  rcases characters_commas words member with word | rfl | rfl
  · exact Or.inl word
  · exact Or.inr (Or.inl (by decide))
  · simp [AllowedChar]

theorem newline_not_mem_commas (words : ∀ name ∈ names, IsWord name.toList) :
    '\n' ∉ commas names := by
  intro member
  rcases characters_commas words member with word | mark
  · rw [isWordChar_of_isBlank (by decide)] at word
    cases word
  · simp at mark

theorem toList_designator (names : List String) :
    (designator (names.map .key)).toList =
      'k' :: 'e' :: 'y' :: ':' :: ' ' :: '(' :: (commas names ++ [')']) := by
  have fields : (names.map Entry.key).map (·.field) = names := by
    rw [List.map_map]
    exact List.map_id names
  simp [designator, commas, fields, String.toList_intercalate]

theorem spells_designator (nonempty : names ≠ [])
    (words : ∀ name ∈ names, IsWord name.toList) (named : ∀ name ∈ names, isName name = true) :
    Spells (designator (names.map .key)).toList true (names.map .key) := by
  have line : '\n' ∉ ' ' :: '(' :: (commas names ++ [')']) := by
    simp [newline_not_mem_commas words]
  have designates := @IsDesignator.intro _ [] (List.forall_mem_nil _) line
  have list : trim (String.ofList (' ' :: '(' :: (commas names ++ [')']))) =
      String.ofList ('(' :: (commas names ++ [')'])) := by
    rw [Text.trim_cons_blank (by decide)]
    apply Text.IsTrimmed.trim_eq
    rw [String.toList_ofList]
    exact Text.isTrimmed_of_ends not_isBlank_mark.1 not_isBlank_mark.2.1 (commas names)
  rw [toList_designator]
  refine .designator designates ?_
  rw [list, String.toList_ofList]
  exact listsNames_commas nonempty words named

end

theorem toList_render_aggregate (function field : String) :
    (Entry.aggregate function field).render.toList =
      function.toList ++ ([] ++ '(' :: ([] ++ (field.toList ++ ([] ++ [')'])))) := by
  simp [Entry.render, Entry.aggregate]

theorem spells_aggregate {function field : String} (isFunction : IsWord function.toList)
    (isField : IsWord field.toList) :
    Spells (Entry.aggregate function field).render.toList false [.aggregate function field] := by
  have isCall : IsCall function.toList field.toList _ := .intro isFunction isField
    (List.forall_mem_nil _) (List.forall_mem_nil _) (List.forall_mem_nil _)
  rw [toList_render_aggregate]
  simpa using Spells.call isCall

/-- A text without blanks around it, and with no other characters than it may have, that stands for
these entries. -/
structure Writes (text : String) (part : Bool × List Entry) : Prop where
  trimmed : Text.IsTrimmed text.toList
  spells : Spells text.toList part.1 part.2
  allowed : ∀ c ∈ text.toList, AllowedChar c

theorem Entry.IsSpelled.writes {entry : Entry} (spelled : entry.IsSpelled)
    (noKey : entry.isKey = false) : Writes entry.render (false, [entry]) := by
  cases spelled with
  | key isWord named => cases noKey
  | @aggregate function field isFunction isField =>
    have visible : ∀ c ∈ (Entry.aggregate function field).render.toList, isBlank c = false := by
      rw [toList_render_aggregate]
      simpa [or_imp, forall_and, not_isBlank_mark] using ⟨isFunction.visible, isField.visible⟩
    refine ⟨Text.isTrimmed_of_forall visible, spells_aggregate isFunction isField, ?_⟩
    have marks : AllowedChar '(' ∧ AllowedChar ')' := by simp [AllowedChar]
    rw [toList_render_aggregate]
    simpa [or_imp, forall_and, marks] using ⟨isFunction.allowed, isField.allowed⟩

/-- All that there is to a key is its name. -/
theorem exists_names {keys : List Entry} (spelled : ∀ entry ∈ keys, entry.IsSpelled)
    (isBlock : ∀ entry ∈ keys, entry.isKey = true) :
    ∃ names : List String, keys = names.map .key ∧ (∀ name ∈ names, IsWord name.toList) ∧
      ∀ name ∈ names, isName name = true := by
  induction keys with
  | nil => exact ⟨[], rfl, List.forall_mem_nil _, List.forall_mem_nil _⟩
  | cons entry rest ih =>
    obtain ⟨spelledFirst, spelledRest⟩ := List.forall_mem_cons.mp spelled
    obtain ⟨isFirst, isRest⟩ := List.forall_mem_cons.mp isBlock
    obtain ⟨names, rfl, words, named⟩ := ih spelledRest isRest
    cases spelledFirst with
    | @key field isWord isName =>
      exact ⟨field :: names, rfl, List.forall_mem_cons.mpr ⟨isWord, words⟩,
        List.forall_mem_cons.mpr ⟨isName, named⟩⟩
    | aggregate isFunction isField => cases isFirst

theorem writes_designator {keys : List Entry} (nonempty : keys ≠ [])
    (spelled : ∀ entry ∈ keys, entry.IsSpelled) (isBlock : ∀ entry ∈ keys, entry.isKey = true) :
    Writes (designator keys) (true, keys) := by
  obtain ⟨names, rfl, words, named⟩ := exists_names spelled isBlock
  refine ⟨?_, spells_designator (by simpa using nonempty) words named, ?_⟩
  · rw [toList_designator]
    exact Text.isTrimmed_of_ends (by decide +kernel) not_isBlank_mark.2.1
      ('e' :: 'y' :: ':' :: ' ' :: '(' :: commas names)
  · have front : ['k', 'e', 'y', ':', ' ', '('].all isEntryChar = true := by decide +kernel
    have back : ∀ c ∈ commas names ++ [')'], AllowedChar c :=
      List.forall_mem_append.mpr ⟨allowed_commas words, by simp [AllowedChar]⟩
    have whole := List.forall_mem_append.mpr
      ⟨fun c inside => isEntryChar_iff.mp (List.all_eq_true.mp front c inside), back⟩
    rw [toList_designator]
    exact whole

theorem texts_reduce {operation : Operation} {entries : List Entry}
    (noKey : ∀ entry ∈ entries, entry.isKey = false) :
    Rule.texts ⟨operation, entries⟩ = entries.map Entry.render := by
  have all : ∀ entry ∈ entries, (!entry.isKey) = true := by simpa using noKey
  have before := List.takeWhile_eq_self_iff.mpr all
  have others := List.dropWhile_eq_nil_iff.mpr all
  simp [Rule.texts, before, others]

theorem texts_reduceByKey {operation : Operation} {before keys after : List Entry}
    (nonempty : keys ≠ []) (isBlock : ∀ entry ∈ keys, entry.isKey = true)
    (noOther : ∀ entry ∈ before ++ after, entry.isKey = false) :
    Rule.texts ⟨operation, before ++ (keys ++ after)⟩ =
      before.map Entry.render ++ designator keys :: after.map Entry.render := by
  obtain ⟨noneBefore, noneAfter⟩ := List.forall_mem_append.mp noOther
  have front : ∀ entry ∈ before, (!entry.isKey) = true := by simpa using noneBefore
  have stopFront : ∀ entry ∈ (keys ++ after).head?, (!entry.isKey) = false := by
    rw [List.head?_append_of_ne_nil _ nonempty]
    intro entry first
    rw [isBlock entry (List.mem_of_mem_head? first), Bool.not_true]
  have stopBlock : ∀ entry ∈ after.head?, entry.isKey = false :=
    fun entry first => noneAfter entry (List.mem_of_mem_head? first)
  rw [← List.isEmpty_eq_false_iff] at nonempty
  simp only [Rule.texts, Text.takeWhile_append_stop front stopFront,
    Text.dropWhile_append_stop front stopFront, Text.takeWhile_append_stop isBlock stopBlock,
    Text.dropWhile_append_stop isBlock stopBlock, nonempty]
  simp

/-- Texts that stand for the entries of each part spell out the rule of all parts. -/
theorem spellsOut_of_writes {rule : Rule} {texts : List String}
    {parts : List (Bool × List Entry)} (writes : List.Forall₂ Writes texts parts)
    (operation : rule.operation = .reduce ∨ rule.operation = .reduceByKey)
    (designators : parts.countP (·.1) = if rule.operation = .reduce then 0 else 1)
    (entries : rule.entries = parts.flatMap (·.2)) :
    SpellsOut rule.operation.name texts rule where
  characters := by
    have both := writes.imp fun text part written => And.intro written.allowed written
    exact ((List.forall₂_and_left texts parts).mp both).1
  operation := by
    rcases operation with same | same
    · exact Or.inl ⟨by rw [same]; decide +kernel, same⟩
    · exact Or.inr ⟨by rw [same]; decide +kernel, same⟩
  entries := by
    refine ⟨parts, writes.imp fun text part written => ?_, designators, entries⟩
    rw [written.trimmed.trim_eq]
    exact written.spells

theorem writes_each {entries : List Entry} (spelled : ∀ entry ∈ entries, entry.IsSpelled)
    (noKey : ∀ entry ∈ entries, entry.isKey = false) :
    List.Forall₂ Writes (entries.map Entry.render) (entries.map fun entry => (false, [entry])) := by
  rw [List.forall₂_map_left_iff, List.forall₂_map_right_iff, List.forall₂_same]
  exact fun entry member => (spelled entry member).writes (noKey entry member)

theorem spellsOut_texts {rule : Rule} (shaped : rule.IsShaped) :
    SpellsOut rule.operation.name rule.texts rule := by
  cases shaped with
  | @reduce entries spelled noKey =>
    have writes := writes_each spelled noKey
    rw [← texts_reduce noKey] at writes
    exact spellsOut_of_writes writes (Or.inl rfl) (by simp) (by simp [List.flatMap_map])
  | @reduceByKey before keys after spelled nonempty isBlock noOther =>
    obtain ⟨spelledBefore, spelledKeys, spelledAfter⟩ :
        (∀ entry ∈ before, entry.IsSpelled) ∧ (∀ entry ∈ keys, entry.IsSpelled) ∧
          ∀ entry ∈ after, entry.IsSpelled := by
      simpa only [List.forall_mem_append] using spelled
    obtain ⟨noneBefore, noneAfter⟩ := List.forall_mem_append.mp noOther
    have block := writes_designator nonempty spelledKeys isBlock
    have writes : List.Forall₂ Writes (Rule.texts ⟨.reduceByKey, before ++ (keys ++ after)⟩)
        (before.map (fun entry => (false, [entry])) ++
          (true, keys) :: after.map fun entry => (false, [entry])) := by
      rw [texts_reduceByKey nonempty isBlock noOther]
      exact List.rel_append (writes_each spelledBefore noneBefore)
        (.cons block (writes_each spelledAfter noneAfter))
    exact spellsOut_of_writes writes (Or.inr rfl) (by simp [Function.comp_def])
      (by simp [List.flatMap_map])

/-- The rules that are parsed from texts are those of this shape, and each of them is what its own
texts are parsed as. -/
theorem exists_parse_iff (rule : Rule) :
    ((∃ operation texts, Rule.parse operation texts = .ok rule) ↔ rule.IsShaped) ∧
      (rule.IsShaped → Rule.parse rule.operation.name rule.texts = .ok rule) := by
  have spelled (shaped : rule.IsShaped) : Rule.parse rule.operation.name rule.texts = .ok rule :=
    parse_eq_ok_iff.mpr (spellsOut_texts shaped)
  refine ⟨⟨?_, fun shaped => ⟨_, _, spelled shaped⟩⟩, spelled⟩
  rintro ⟨operation, texts, parsed⟩
  exact isShaped_of_parse parsed

/-- A function may have the name that designators begin with. -/
theorem parse_shaped_key :
    let rule : Rule :=
      ⟨.reduceByKey, [.aggregate "key" "bytes", .key "host", .key "port", .aggregate "max" "time"]⟩
    rule.IsShaped ∧ rule.texts = ["key(bytes)", "key: (host, port)", "max(time)"] ∧
      Rule.parse "reduceByKey" ["key(bytes)", "key: (host, port)", "max(time)"] = .ok rule := by
  intro rule
  have texts : rule.texts = ["key(bytes)", "key: (host, port)", "max(time)"] := by decide +kernel
  have first : Entry.IsSpelled (.aggregate "key" "bytes") :=
    .aggregate (by decide +kernel) (by decide +kernel)
  have host : Entry.IsSpelled (.key "host") := .key (by decide +kernel) (by decide +kernel)
  have port : Entry.IsSpelled (.key "port") := .key (by decide +kernel) (by decide +kernel)
  have last : Entry.IsSpelled (.aggregate "max" "time") :=
    .aggregate (by decide +kernel) (by decide +kernel)
  have shaped : rule.IsShaped := by
    refine @Rule.IsShaped.reduceByKey [.aggregate "key" "bytes"] [.key "host", .key "port"]
      [.aggregate "max" "time"] ?_ (List.cons_ne_nil _ _) (by decide) (by decide)
    simp [first, host, port, last]
  obtain ⟨-, parsed⟩ := exists_parse_iff rule
  have parsed := parsed shaped
  rw [texts] at parsed
  exact ⟨shaped, texts, parsed⟩

end StreamPlan.Aggregation
