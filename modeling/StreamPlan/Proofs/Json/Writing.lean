import StreamPlan.Proofs.Json.Scanning

set_option autoImplicit false

namespace StreamPlan.Json

open Token (Writes isNumberChar isSpace)

namespace Value

/-- A value that has a written form: its numbers follow the grammar and its strings denote
text. -/
inductive IsWritten : Value → Prop where
  | null : IsWritten .null
  | bool (value : Bool) : IsWritten (.bool value)
  | number {text : String} (number : Token.IsNumberText text.toList) : IsWritten (.number text)
  | text (s : String) : IsWritten (.text s)
  | array {items : List Value} (written : ∀ item ∈ items, IsWritten item) : IsWritten (.array items)
  | object {members : List (Text × Value)} (named : ∀ member ∈ members, member.1.isSome = true)
      (written : ∀ member ∈ members, IsWritten member.2) : IsWritten (.object members)

def Stops (rest : List Char) : Prop := ∀ c ∈ rest.head?, isNumberChar c = false

theorem stops_nil : Stops [] := by simp [Stops]

theorem stops_cons {c : Char} (mark : isNumberChar c = false) (rest : List Char) :
    Stops (c :: rest) := by
  simpa [Stops] using mark

section Compact

variable {rest : List Char} {tokens : List Token}

def WritesCompact (value : Value) : Prop :=
  ∀ {rest : List Char} {tokens : List Token}, Stops rest → Writes rest tokens →
    Writes (value.tokens.flatMap Token.chars ++ rest) (value.tokens ++ tokens)

theorem stops_itemTokens (items : List Value) :
    Stops ((itemTokens items).flatMap Token.chars ++ rest) := by
  cases items with
  | nil => exact stops_cons rfl _
  | cons item items => exact stops_cons rfl _

theorem stops_memberTokens (members : List (Text × Value)) :
    Stops ((memberTokens members).flatMap Token.chars ++ rest) := by
  cases members with
  | nil => exact stops_cons rfl _
  | cons member members => exact stops_cons rfl _

theorem writes_itemTokens {items : List Value} (each : ∀ item ∈ items, WritesCompact item)
    (writes : Writes rest tokens) :
    Writes ((itemTokens items).flatMap Token.chars ++ rest) (itemTokens items ++ tokens) := by
  induction items with
  | nil => exact @Writes.token .closeBracket _ _ trivial trivial writes
  | cons item items ih =>
    obtain ⟨first, others⟩ := List.forall_mem_cons.mp each
    have after := first (stops_itemTokens items) (ih others)
    have comma := @Writes.token .comma _ _ trivial trivial after
    simpa [itemTokens] using comma

theorem writes_memberTokens {members : List (Text × Value)}
    (named : ∀ member ∈ members, member.1.isSome = true)
    (each : ∀ member ∈ members, WritesCompact member.2) (writes : Writes rest tokens) :
    Writes ((memberTokens members).flatMap Token.chars ++ rest)
      (memberTokens members ++ tokens) := by
  induction members with
  | nil => exact @Writes.token .closeBrace _ _ trivial trivial writes
  | cons member members ih =>
    obtain ⟨isNamed, othersNamed⟩ := List.forall_mem_cons.mp named
    obtain ⟨first, others⟩ := List.forall_mem_cons.mp each
    have after := first (stops_memberTokens members) (ih othersNamed others)
    have colon := @Writes.token .colon _ _ trivial trivial after
    have name := @Writes.token (.string member.1) _ _ isNamed trivial colon
    have comma := @Writes.token .comma _ _ trivial trivial name
    simpa [memberTokens] using comma

theorem IsWritten.writesCompact {value : Value} (written : value.IsWritten) :
    WritesCompact value := by
  induction written with
  | null =>
    intro rest tokens stops writes
    exact @Writes.token .null _ _ trivial trivial writes
  | bool value =>
    intro rest tokens stops writes
    simpa [Value.tokens] using @Writes.token (.bool value) _ _ trivial trivial writes
  | @number text number =>
    intro rest tokens stops writes
    simpa [Value.tokens] using @Writes.token (.number text) _ _ number stops writes
  | text s =>
    intro rest tokens stops writes
    simpa [Value.tokens, Value.text] using @Writes.token (.string (some s)) _ _ rfl trivial writes
  | @array items written ih =>
    intro rest tokens stops writes
    cases items with
    | nil =>
      have closing := @Writes.token .closeBracket _ _ trivial trivial writes
      exact @Writes.token .openBracket _ _ trivial trivial closing
    | cons item items =>
      obtain ⟨first, others⟩ := List.forall_mem_cons.mp ih
      have after := first (stops_itemTokens items) (writes_itemTokens others writes)
      have opening := @Writes.token .openBracket _ _ trivial trivial after
      simpa [Value.tokens] using opening
  | @object members named written ih =>
    intro rest tokens stops writes
    cases members with
    | nil =>
      have closing := @Writes.token .closeBrace _ _ trivial trivial writes
      exact @Writes.token .openBrace _ _ trivial trivial closing
    | cons member members =>
      obtain ⟨isNamed, othersNamed⟩ := List.forall_mem_cons.mp named
      obtain ⟨first, others⟩ := List.forall_mem_cons.mp ih
      have after := first (stops_memberTokens members)
        (writes_memberTokens othersNamed others writes)
      have colon := @Writes.token .colon _ _ trivial trivial after
      have name := @Writes.token (.string member.1) _ _ isNamed trivial colon
      have opening := @Writes.token .openBrace _ _ trivial trivial name
      simpa [Value.tokens] using opening

end Compact

section Pretty

variable {rest : List Char} {tokens : List Token}

theorem writes_lineBreak (level : Nat) (writes : Writes rest tokens) :
    Writes ((lineBreak level).toList ++ rest) tokens := by
  have indented (count : Nat) : Writes (List.replicate count ' ' ++ rest) tokens := by
    induction count with
    | zero => exact writes
    | succ count ih => exact .space rfl ih
  have broken := Writes.space (show isSpace '\n' = true from rfl) (indented (2 * level))
  simpa [lineBreak] using broken

theorem stops_lineBreak (level : Nat) : Stops ((lineBreak level).toList ++ rest) := by
  have broken := @stops_cons '\n' rfl (List.replicate (2 * level) ' ' ++ rest)
  simpa [lineBreak] using broken

def WritesPretty (value : Value) : Prop :=
  ∀ (level : Nat) {rest : List Char} {tokens : List Token}, Stops rest → Writes rest tokens →
    Writes ((value.pretty level).toList ++ rest) (value.tokens ++ tokens)

-- What is neither array nor object has one written form.
theorem IsWritten.writesPretty_of_leaf {value : Value} (written : value.IsWritten)
    (leaf : ∀ level, value.pretty level = value.compact) : WritesPretty value := by
  intro level rest tokens stops after
  rw [leaf, compact, String.toList_ofList]
  exact written.writesCompact stops after

theorem stops_prettyItems (level : Nat) (items : List Value) :
    Stops ((prettyItems level items).toList ++ rest) := by
  cases items with
  | nil => simpa [prettyItems] using stops_lineBreak level
  | cons item items =>
    rw [prettyItems]
    simpa using stops_cons (show isNumberChar ',' = false from rfl) _

theorem stops_prettyMembers (level : Nat) (members : List (Text × Value)) :
    Stops ((prettyMembers level members).toList ++ rest) := by
  cases members with
  | nil => simpa [prettyMembers] using stops_lineBreak level
  | cons member members =>
    rw [prettyMembers]
    simpa using stops_cons (show isNumberChar ',' = false from rfl) _

theorem writes_prettyItems (level : Nat) {items : List Value}
    (each : ∀ item ∈ items, WritesPretty item) (writes : Writes rest tokens) :
    Writes ((prettyItems level items).toList ++ ']' :: rest) (itemTokens items ++ tokens) := by
  induction items with
  | nil =>
    have closing := @Writes.token .closeBracket _ _ trivial trivial writes
    exact writes_lineBreak level closing
  | cons item items ih =>
    obtain ⟨first, others⟩ := List.forall_mem_cons.mp each
    have after := first (level + 1) (stops_prettyItems level items) (ih others)
    have broken := writes_lineBreak (level + 1) after
    have comma := @Writes.token .comma _ _ trivial trivial broken
    simpa [prettyItems, itemTokens, Token.chars] using comma

theorem writes_memberName {name : Text} (named : name.isSome = true) (writes : Writes rest tokens) :
    Writes ((memberName name).toList ++ rest) (.string name :: .colon :: tokens) := by
  have space := Writes.space (show isSpace ' ' = true from rfl) writes
  have colon := @Writes.token .colon _ _ trivial trivial space
  have string := @Writes.token (.string name) _ _ named trivial colon
  simpa [memberName, Token.chars] using string

theorem writes_prettyMembers (level : Nat) {members : List (Text × Value)}
    (named : ∀ member ∈ members, member.1.isSome = true)
    (each : ∀ member ∈ members, WritesPretty member.2) (writes : Writes rest tokens) :
    Writes ((prettyMembers level members).toList ++ '\x7d' :: rest)
      (memberTokens members ++ tokens) := by
  induction members with
  | nil =>
    have closing := @Writes.token .closeBrace _ _ trivial trivial writes
    exact writes_lineBreak level closing
  | cons member members ih =>
    obtain ⟨isNamed, othersNamed⟩ := List.forall_mem_cons.mp named
    obtain ⟨first, others⟩ := List.forall_mem_cons.mp each
    have after := first (level + 1) (stops_prettyMembers level members) (ih othersNamed others)
    have broken := writes_lineBreak (level + 1) (writes_memberName isNamed after)
    have comma := @Writes.token .comma _ _ trivial trivial broken
    simpa [prettyMembers, memberTokens, Token.chars] using comma

theorem IsWritten.writesPretty {value : Value} (written : value.IsWritten) :
    WritesPretty value := by
  induction written with
  | null => exact IsWritten.null.writesPretty_of_leaf fun _ => rfl
  | bool value => exact (IsWritten.bool value).writesPretty_of_leaf fun _ => rfl
  | number number => exact (IsWritten.number number).writesPretty_of_leaf fun _ => rfl
  | text s => exact (IsWritten.text s).writesPretty_of_leaf fun _ => rfl
  | @array items written ih =>
    intro level rest tokens stops writes
    cases items with
    | nil =>
      have closing := @Writes.token .closeBracket _ _ trivial trivial writes
      have opening := @Writes.token .openBracket _ _ trivial trivial closing
      simpa [pretty, Value.tokens, Token.chars] using opening
    | cons item items =>
      obtain ⟨first, others⟩ := List.forall_mem_cons.mp ih
      have after := first (level + 1) (stops_prettyItems level items)
        (writes_prettyItems level others writes)
      have broken := writes_lineBreak (level + 1) after
      have opening := @Writes.token .openBracket _ _ trivial trivial broken
      simpa [pretty, Value.tokens, Token.chars] using opening
  | @object members named written ih =>
    intro level rest tokens stops writes
    cases members with
    | nil =>
      have closing := @Writes.token .closeBrace _ _ trivial trivial writes
      have opening := @Writes.token .openBrace _ _ trivial trivial closing
      simpa [pretty, Value.tokens, Token.chars] using opening
    | cons member members =>
      obtain ⟨isNamed, othersNamed⟩ := List.forall_mem_cons.mp named
      obtain ⟨first, others⟩ := List.forall_mem_cons.mp ih
      have after := first (level + 1) (stops_prettyMembers level members)
        (writes_prettyMembers level othersNamed others writes)
      have broken := writes_lineBreak (level + 1) (writes_memberName isNamed after)
      have opening := @Writes.token .openBrace _ _ trivial trivial broken
      simpa [pretty, Value.tokens, Token.chars] using opening

end Pretty

end Value
end StreamPlan.Json
