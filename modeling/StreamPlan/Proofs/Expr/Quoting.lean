import StreamPlan.Expr.Literal
import StreamPlan.Expr.Token

/-! Where a quote opens a string, said without the scanner, and that strings are read back from
their rendering. -/

set_option autoImplicit false

namespace StreamPlan.Expr

open Token (mayFollowString quoted? quotedFrom? unescape)

inductive StringBody (quote : Char) : List Char → Prop where
  | nil : StringBody quote []
  | escaped (c : Char) {rest : List Char} (body : StringBody quote rest) :
      StringBody quote ('\\' :: c :: rest)
  | plain {c : Char} {rest : List Char} (notEscape : c ≠ '\\') (notQuote : c ≠ quote)
      (body : StringBody quote rest) : StringBody quote (c :: rest)

/-- The text begins with a closed string after which an argument may end. -/
def OpensString (cs : List Char) : Prop :=
  ∃ quote body rest, (quote = '\'' ∨ quote = '"') ∧ StringBody quote body ∧
    cs = quote :: (body ++ quote :: rest) ∧ mayFollowString rest = true

theorem not_opensString {c : Char} (noQuote : c ≠ '\'' ∧ c ≠ '"') (rest : List Char) :
    ¬ OpensString (c :: rest) := by
  rintro ⟨quote, body, after, isQuote, -, same, -⟩
  obtain ⟨rfl, -⟩ := List.cons.inj same
  rcases isQuote with isSingle | isDouble
  · exact noQuote.1 isSingle
  · exact noQuote.2 isDouble

theorem quotedFrom?_escaped (quote c : Char) (read : List Char) (length : Nat) (rest : List Char) :
    quotedFrom? quote read length ('\\' :: c :: rest) =
      quotedFrom? quote ((unescape c).reverse ++ read) (length + 2) rest := by
  rw [quotedFrom?]

theorem quotedFrom?_plain {quote c : Char} (notEscape : c ≠ '\\') (read : List Char) (length : Nat)
    (rest : List Char) :
    quotedFrom? quote read length (c :: rest) =
      if c = quote then
        if mayFollowString rest then some (read.reverse, length + 1, rest) else none
      else quotedFrom? quote (c :: read) (length + 1) rest := by
  rw [quotedFrom?]
  intro c' rest' isEscape
  exact absurd isEscape notEscape

inductive StandsFor : Char → List Char → Prop where
  | newline : StandsFor 'n' ['\n']
  | tab : StandsFor 't' ['\t']
  | mark {c : Char} (isMark : c = '\\' ∨ c = '\'' ∨ c = '"') : StandsFor c [c]
  -- Nothing else is an escape, so the backslash stays.
  | other {c : Char} (isOther : c ∉ ['n', 't', '\\', '\'', '"']) : StandsFor c ['\\', c]

/-- What stands between two quotes, none of which is unescaped in it, and the text that it
denotes. -/
inductive Denotes (quote : Char) : List Char → List Char → Prop where
  | nil : Denotes quote [] []
  | escaped {c : Char} {cs body text : List Char} (standsFor : StandsFor c cs)
      (others : Denotes quote body text) : Denotes quote ('\\' :: c :: body) (cs ++ text)
  | plain {c : Char} {body text : List Char} (notEscape : c ≠ '\\') (notQuote : c ≠ quote)
      (others : Denotes quote body text) : Denotes quote (c :: body) (c :: text)

theorem standsFor_iff {c : Char} {cs : List Char} : StandsFor c cs ↔ unescape c = cs := by
  constructor
  · intro standsFor
    cases standsFor with
    | newline => rfl
    | tab => rfl
    | mark isMark => rcases isMark with rfl | rfl | rfl <;> rfl
    | other isOther =>
      simp only [List.mem_cons, List.not_mem_nil, or_false, not_or] at isOther
      simp [unescape, isOther]
  · rintro rfl
    unfold unescape
    split
    · rename_i isNewline
      exact isNewline ▸ .newline
    split
    · rename_i isTab
      exact isTab ▸ .tab
    split
    · rename_i isMark
      exact .mark isMark
    · rename_i notNewline notTab notMark
      exact .other (by simp_all)

/-- A string ends with the first quote that no backslash takes along. -/
theorem Denotes.unique {quote : Char} {body body' text text' after after' : List Char}
    (notEscape : quote ≠ '\\') (left : Denotes quote body text) (right : Denotes quote body' text')
    (same : body ++ quote :: after = body' ++ quote :: after') : body = body' := by
  induction left generalizing body' text' with
  | nil =>
    cases right with
    | nil => rfl
    | escaped => exact absurd (List.cons.inj same).1 notEscape
    | plain _ notQuote => exact absurd (List.cons.inj same).1.symm notQuote
  | escaped _ others ih =>
    cases right with
    | nil => exact absurd (List.cons.inj same).1.symm notEscape
    | escaped _ others' =>
      obtain ⟨rfl, inside⟩ := List.cons.inj (List.cons.inj same).2
      rw [ih others' inside]
    | plain isPlain => exact absurd (List.cons.inj same).1.symm isPlain
  | plain isPlain notQuote others ih =>
    cases right with
    | nil => exact absurd (List.cons.inj same).1 notQuote
    | escaped => exact absurd (List.cons.inj same).1 isPlain
    | plain _ _ others' =>
      obtain ⟨rfl, inside⟩ := List.cons.inj same
      rw [ih others' inside]

section

variable {quote : Char} {read : List Char} {length : Nat} {rest : List Char}

theorem StringBody.exists_denotes {body : List Char} (closes : StringBody quote body) :
    ∃ text, Denotes quote body text := by
  induction closes with
  | nil => exact ⟨[], .nil⟩
  | escaped c closes ih =>
    obtain ⟨text, denotes⟩ := ih
    exact ⟨unescape c ++ text, .escaped (standsFor_iff.mpr rfl) denotes⟩
  | @plain c body notEscape notQuote closes ih =>
    obtain ⟨text, denotes⟩ := ih
    exact ⟨c :: text, .plain notEscape notQuote denotes⟩

-- The string is closed by the quote behind it, where an argument may end, and nowhere else.
theorem Denotes.quotedFrom?_eq {body text : List Char} (denotes : Denotes quote body text)
    (notEscape : quote ≠ '\\') (read : List Char) (length : Nat) :
    quotedFrom? quote read length (body ++ quote :: rest) =
      if mayFollowString rest then some (read.reverse ++ text, length + body.length + 1, rest)
      else none := by
  induction denotes generalizing read length with
  | nil => simp [quotedFrom?_plain notEscape]
  | @escaped c cs body text standsFor others ih =>
    rw [List.cons_append, List.cons_append, quotedFrom?_escaped, standsFor_iff.mp standsFor, ih]
    have counted : length + 2 + body.length + 1 = length + ('\\' :: c :: body).length + 1 := by
      simp only [List.length_cons]
      omega
    rw [counted]
    simp
  | @plain c body text plain notQuote others ih =>
    rw [List.cons_append, quotedFrom?_plain plain, if_neg notQuote, ih]
    have counted : length + 1 + body.length + 1 = length + (c :: body).length + 1 := by
      simp only [List.length_cons]
      omega
    rw [counted]
    simp

theorem exists_stringBody {cs : List Char}
    (found : (quotedFrom? quote read length cs).isSome = true) :
    ∃ body rest, StringBody quote body ∧ cs = body ++ quote :: rest ∧
      mayFollowString rest = true := by
  fun_induction quotedFrom? quote read length cs with
  | case1 => cases found
  | case2 read length c rest ih =>
    obtain ⟨body, after, closes, rfl, follows⟩ := ih found
    exact ⟨'\\' :: c :: body, after, .escaped c closes, rfl, follows⟩
  | case3 read length rest follows => exact ⟨[], rest, .nil, rfl, follows⟩
  | case4 => cases found
  | case5 read length c rest single notQuote ih =>
    obtain ⟨body, after, closes, rfl, follows⟩ := ih found
    -- a backslash would have taken the next character with it, of which there is one: the quote
    have notEscape : c ≠ '\\' := by
      intro isEscape
      cases body with
      | nil => exact single quote after isEscape rfl
      | cons next body => exact single next (body ++ quote :: after) isEscape rfl
    exact ⟨c :: body, after, .plain notEscape notQuote closes, rfl, follows⟩

end

theorem Denotes.quoted?_eq_ite {quote : Char} {body text : List Char}
    (denotes : Denotes quote body text) (isQuote : quote = '\'' ∨ quote = '"') (rest : List Char) :
    quoted? quote (body ++ quote :: rest) =
      if mayFollowString rest then some (text, body.length + 2, rest) else none := by
  have notEscape : quote ≠ '\\' := by rcases isQuote with rfl | rfl <;> decide
  have counted : 1 + body.length + 1 = body.length + 2 := by omega
  rw [quoted?, if_pos isQuote, denotes.quotedFrom?_eq notEscape, counted]
  rfl

theorem Denotes.quoted?_eq {quote : Char} {body text rest : List Char}
    (denotes : Denotes quote body text) (isQuote : quote = '\'' ∨ quote = '"')
    (follows : mayFollowString rest = true) :
    quoted? quote (body ++ quote :: rest) = some (text, body.length + 2, rest) := by
  rw [denotes.quoted?_eq_ite isQuote, if_pos follows]

theorem quoted?_isSome_iff {c : Char} {rest : List Char} :
    (quoted? c rest).isSome = true ↔ OpensString (c :: rest) := by
  constructor
  · intro found
    unfold quoted? at found
    split at found
    · rename_i isQuote
      obtain ⟨body, after, closes, rfl, follows⟩ := exists_stringBody found
      exact ⟨c, body, after, isQuote, closes, rfl, follows⟩
    · cases found
  · rintro ⟨quote, body, after, isQuote, closes, same, follows⟩
    obtain ⟨rfl, rfl⟩ := List.cons.inj same
    obtain ⟨text, denotes⟩ := closes.exists_denotes
    rw [denotes.quoted?_eq isQuote follows]
    rfl

/-- A string is read up to the next unescaped quote, if an argument may end behind it. -/
theorem quoted?_eq_some_iff {c : Char} {rest text after : List Char} {length : Nat} :
    quoted? c rest = some (text, length, after) ↔ (c = '\'' ∨ c = '"') ∧
      mayFollowString after = true ∧ ∃ body, Denotes c body text ∧ rest = body ++ c :: after ∧
        length = body.length + 2 := by
  constructor
  · intro found
    obtain ⟨quote, body, after', isQuote, closes, same, follows⟩ :=
      quoted?_isSome_iff.mp (Option.isSome_of_eq_some found)
    obtain ⟨rfl, rfl⟩ := List.cons.inj same
    obtain ⟨text', denotes⟩ := closes.exists_denotes
    rw [denotes.quoted?_eq isQuote follows] at found
    cases found
    exact ⟨isQuote, follows, body, denotes, rfl, rfl⟩
  · rintro ⟨isQuote, follows, body, denotes, rfl, rfl⟩
    exact denotes.quoted?_eq isQuote follows

theorem mayFollowString_append_stop {stop : Char} (isStop : stop = ',' ∨ stop = ')')
    (front back : List Char) : mayFollowString (front ++ stop :: back) = mayFollowString front := by
  have visible : Text.isBlank stop = false := by rcases isStop with rfl | rfl <;> decide +kernel
  simp only [mayFollowString, List.find?_append, List.find?_cons, visible]
  cases front.find? (!Text.isBlank ·) with
  | none => rcases isStop with rfl | rfl <;> rfl
  | some c => rfl

/-- A string that opens in front of the end of an argument opens whatever follows. -/
theorem OpensString.append_stop {stop : Char} {front : List Char} (opens : OpensString front)
    (isStop : stop = ',' ∨ stop = ')') (back : List Char) : OpensString (front ++ stop :: back) := by
  obtain ⟨quote, body, after, isQuote, closes, rfl, follows⟩ := opens
  rw [← mayFollowString_append_stop isStop after back] at follows
  exact ⟨quote, body, after ++ stop :: back, isQuote, closes, by simp, follows⟩

theorem denotes_escape (text : List Char) : Denotes '\'' (text.flatMap Literal.escape) text := by
  induction text with
  | nil => exact .nil
  | cons c rest ih =>
    rw [List.flatMap_cons, Literal.escape]
    split
    · rename_i isEscape
      subst isEscape
      exact .escaped (.mark (Or.inl rfl)) ih
    split
    · rename_i isQuote
      subst isQuote
      exact .escaped (.mark (Or.inr (Or.inl rfl))) ih
    · rename_i notEscape notQuote
      exact .plain notEscape notQuote ih

/-- A rendered string is read as the text it was rendered from, if an argument may end behind it. -/
theorem quoted?_render (text after : List Char) :
    quoted? '\'' (text.flatMap Literal.escape ++ '\'' :: after) =
      if mayFollowString after then some (text, (text.flatMap Literal.escape).length + 2, after)
      else none :=
  (denotes_escape text).quoted?_eq_ite (Or.inl rfl) after

end StreamPlan.Expr
