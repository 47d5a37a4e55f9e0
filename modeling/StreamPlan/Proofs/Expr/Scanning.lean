import StreamPlan.Proofs.Expr.Literal
import StreamPlan.Proofs.Expr.Quoting
import StreamPlan.Proofs.Text.Split

/-! The lexemes of a text, whatever stands before it. Runs are scanned to their end and are all of
one kind: some text, without blanks at its ends and without delimiters. -/

set_option autoImplicit false

namespace StreamPlan.Expr

open Token (isDelimiter delimiter? quoted? scanFrom mayFollowString)
open Text (IsTrimmed)

structure IsRun (cs : List Char) : Prop where
  nonempty : cs ≠ []
  trimmed : IsTrimmed cs
  undelimited : ∀ c ∈ cs, isDelimiter c = false

theorem delimiter?_eq_none_iff {c : Char} : delimiter? c = none ↔ isDelimiter c = false := by
  unfold delimiter? isDelimiter
  split
  · simp_all
  split
  · simp_all
  split <;> simp_all

theorem delimiter?_eq_some_iff {c : Char} {lexeme : Lexeme} : delimiter? c = some lexeme ↔
    (c = '(' ∧ lexeme = .opening) ∨ (c = ')' ∧ lexeme = .closing) ∨
      (c = ',' ∧ lexeme = .comma) := by
  unfold delimiter?
  split_ifs <;> simp_all [eq_comm]

theorem not_isBlank_of_isDelimiter {c : Char} (delimiter : isDelimiter c = true) :
    Text.isBlank c = false := by
  simp only [isDelimiter, Bool.or_eq_true, beq_iff_eq] at delimiter
  rcases delimiter with (rfl | rfl) | rfl <;> decide +kernel

theorem visible_of_isQuote {quote : Char} (isQuote : quote = '\'' ∨ quote = '"') :
    Text.isBlank quote = false ∧ delimiter? quote = none := by
  rcases isQuote with rfl | rfl <;> exact ⟨by decide +kernel, by decide⟩

namespace Token

def lexemes (cs : List Char) : List Lexeme := (scanFrom 0 cs).map (·.lexeme)

theorem map_scanFrom (position : Nat) (cs : List Char) :
    (scanFrom position cs).map (·.lexeme) = lexemes cs := by
  suffices same : ∀ other : Nat, (scanFrom position cs).map (·.lexeme) =
      (scanFrom other cs).map (·.lexeme) from same 0
  induction position, cs using scanFrom.induct with
  | case1 position => simp
  | case2 position c rest blank ih =>
    intro other
    rw [scanFrom_blank blank, scanFrom_blank blank]
    exact ih (other + 1)
  | case3 position c rest visible lexeme delimiter ih =>
    intro other
    have visible := Bool.eq_false_iff.mpr visible
    rw [scanFrom_delimiter visible delimiter, scanFrom_delimiter visible delimiter,
      List.map_cons, List.map_cons, ih (other + 1)]
  | case4 position c rest visible ordinary text length after string ih =>
    intro other
    have visible := Bool.eq_false_iff.mpr visible
    rw [scanFrom_quoted visible ordinary string, scanFrom_quoted visible ordinary string,
      List.map_cons, List.map_cons, ih (other + length)]
  | case5 position c rest visible ordinary noString run ih =>
    intro other
    have visible := Bool.eq_false_iff.mpr visible
    rw [scanFrom_run visible ordinary noString, scanFrom_run visible ordinary noString,
      List.map_cons, List.map_cons, ih (other + run.length)]

@[simp] theorem lexemes_nil : lexemes [] = [] := by simp [lexemes]

theorem lexemes_blank {c : Char} (blank : Text.isBlank c = true) (rest : List Char) :
    lexemes (c :: rest) = lexemes rest := by
  rw [lexemes, scanFrom_blank blank, map_scanFrom]

theorem lexemes_delimiter {c : Char} {lexeme : Lexeme} (delimiter : delimiter? c = some lexeme)
    (rest : List Char) : lexemes (c :: rest) = lexeme :: lexemes rest := by
  have visible : Text.isBlank c = false := by
    apply not_isBlank_of_isDelimiter
    rw [← Bool.not_eq_false, ← delimiter?_eq_none_iff, delimiter]
    exact Option.some_ne_none lexeme
  rw [lexemes, scanFrom_delimiter visible delimiter, List.map_cons, map_scanFrom]

theorem lexemes_quoted {c : Char} {rest text after : List Char} {length : Nat}
    (visible : Text.isBlank c = false) (ordinary : delimiter? c = none)
    (string : quoted? c rest = some (text, length, after)) :
    lexemes (c :: rest) = .quoted (String.ofList text) :: lexemes after := by
  rw [lexemes, scanFrom_quoted visible ordinary string, List.map_cons, map_scanFrom]

theorem lexemes_opening (rest : List Char) : lexemes ('(' :: rest) = .opening :: lexemes rest :=
  lexemes_delimiter rfl rest

theorem lexemes_closing (rest : List Char) : lexemes (')' :: rest) = .closing :: lexemes rest :=
  lexemes_delimiter rfl rest

theorem lexemes_comma (rest : List Char) : lexemes (',' :: rest) = .comma :: lexemes rest :=
  lexemes_delimiter rfl rest

theorem lexemes_string (text : List Char) {after : List Char}
    (follows : mayFollowString after = true) :
    lexemes ('\'' :: (text.flatMap Literal.escape ++ '\'' :: after)) =
      .quoted (String.ofList text) :: lexemes after := by
  have string := quoted?_render text after
  rw [if_pos follows] at string
  exact lexemes_quoted (by decide +kernel) (by decide) string

end Token

theorem IsRun.head {cs : List Char} (run : IsRun cs) :
    ∃ c rest, cs = c :: rest ∧ Text.isBlank c = false ∧ delimiter? c = none ∧
      ∀ c ∈ rest, isDelimiter c = false := by
  obtain ⟨c, rest, rfl⟩ := List.exists_cons_of_ne_nil run.nonempty
  have ordinary := List.forall_mem_cons.mp run.undelimited
  exact ⟨c, rest, rfl, run.trimmed.1 c rfl, delimiter?_eq_none_iff.mpr ordinary.1, ordinary.2⟩

-- A run is scanned as a string where one opens with it.
theorem IsRun.lexemes_append_of_opensString {cs after : List Char} (run : IsRun cs)
    (string : OpensString (cs ++ after)) :
    ∃ text rest, Token.lexemes (cs ++ after) = .quoted text :: rest := by
  obtain ⟨c, rest, rfl, visible, ordinary, -⟩ := run.head
  rw [List.cons_append, ← quoted?_isSome_iff] at string
  obtain ⟨⟨text, length, tail⟩, found⟩ := Option.isSome_iff_exists.mp string
  exact ⟨String.ofList text, Token.lexemes tail, Token.lexemes_quoted visible ordinary found⟩

theorem isRun_trimEnd {c : Char} {rest : List Char} (visible : Text.isBlank c = false)
    (undelimited : ∀ d ∈ c :: rest, isDelimiter d = false) : IsRun (Text.trimEnd (c :: rest)) := by
  have pre : Text.trimEnd (c :: rest) <+: c :: rest := List.rdropWhile_prefix Text.isBlank _
  refine ⟨?_, ⟨?_, Text.getLast?_trimEnd⟩, fun c member => undelimited c (pre.subset member)⟩
  · intro empty
    have blank := List.rdropWhile_eq_nil_iff.mp empty c (by simp)
    simp [visible] at blank
  · apply Text.head?_trimEnd
    simpa using visible

end StreamPlan.Expr
