import StreamPlan.Proofs.Expr.Leftmost

/-! The positions in errors are places of the text that is refused, and what the error shows stands
there: the name of a call, a delimiter or a run as it is written, a string with its escapes resolved
and between other quotes. -/

set_option autoImplicit false

namespace StreamPlan

open StreamPlan.Expr (Denotes IsRun Lexeme)
open Expr.Token (isDelimiter)
open Text (isBlank)

namespace ExprError

def position? : ExprError → Option Nat
  | .emptyArgument position | .unexpectedToken position _ | .unexpectedEnd position
  | .invalidFunctionName position _ => some position
  | .unbalancedParentheses _ _ | .emptyExpression | .nestingTooDeep _ => none

/-- What the error says stands in the text at its position. -/
inductive LocatedIn (text : List Char) : ExprError → Prop where
  | unbalancedParentheses (opening closing : Nat) :
      LocatedIn text (.unbalancedParentheses opening closing)
  | emptyExpression : LocatedIn text .emptyExpression
  | nestingTooDeep (limit : Nat) : LocatedIn text (.nestingTooDeep limit)
  | emptyArgument {front back : List Char} {c : Char} (whole : text = front ++ c :: back)
      (isEnd : c = ',' ∨ c = ')') : LocatedIn text (.emptyArgument front.length)
  | invalidFunctionName {front blanks back : List Char} {name : String}
      (whole : text = front ++ (name.toList ++ (blanks ++ '(' :: back)))
      (blank : ∀ c ∈ blanks, isBlank c = true) (unnamed : Text.isName name = false) :
      LocatedIn text (.invalidFunctionName front.length name)
  | delimiter {front back : List Char} {c : Char} (whole : text = front ++ c :: back)
      (delimiter : isDelimiter c = true) :
      LocatedIn text (.unexpectedToken front.length (String.ofList [c]))
  | run {front back : List Char} {run : String} (whole : text = front ++ (run.toList ++ back))
      (isRun : IsRun run.toList) : LocatedIn text (.unexpectedToken front.length run)
  -- The text between the quotes has its escapes, and the value that is shown has none.
  | quoted {front body back value : List Char} {quote : Char}
      (whole : text = front ++ quote :: (body ++ quote :: back))
      (isQuote : quote = '\'' ∨ quote = '"') (denotes : Denotes quote body value) :
      LocatedIn text (.unexpectedToken front.length ("'" ++ String.ofList value ++ "'"))

theorem LocatedIn.position_lt {text : List Char} {reason : ExprError}
    (located : LocatedIn text reason) : ∀ position ∈ reason.position?, position < text.length := by
  cases located with
  | run whole isRun =>
    have filled := List.length_pos_of_ne_nil isRun.nonempty
    simp [position?, whole]
    omega
  | _ => simp_all [position?]

end ExprError

structure InvalidExpr.Located (invalid : InvalidExpr) : Prop where
  place : invalid.error.LocatedIn invalid.expression.toList
  inside : ∀ position ∈ invalid.error.position?, position < invalid.expression.toList.length

namespace Expr

open ExprError (LocatedIn)
open Token (delimiter?)

variable {limit : Nat} {text : List Char} {before after : List Token} {token : Token}

theorem locatedIn_unexpected (scanned : Token.scanFrom 0 text = before ++ token :: after) :
    LocatedIn text (State.unexpected token) := by
  have scans := scans_scanFrom 0 text
  rw [scanned] at scans
  obtain ⟨front, span, back, rfl, place, -, stands, -⟩ := scans.exists_token
  obtain ⟨position, lexeme⟩ := token
  obtain rfl : position = front.length := by simpa using place
  cases stands with
  | @delimiter c _ mark =>
    have shown : lexeme.render = String.ofList [c] := by
      rcases delimiter?_eq_some_iff.mp mark with ⟨rfl, rfl⟩ | ⟨rfl, rfl⟩ | ⟨rfl, rfl⟩ <;> rfl
    rw [State.unexpected, shown]
    exact .delimiter rfl (isDelimiter_of_delimiter? mark)
  | @quoted quote body _ isQuote denotes follows =>
    have whole : front ++ (quote :: (body ++ [quote]) ++ back) =
        front ++ quote :: (body ++ quote :: back) := by simp
    exact .quoted whole isQuote denotes
  | run isRun ends noString =>
    rw [State.unexpected, Lexeme.render]
    exact .run (by rw [String.toList_ofList]) (by rwa [String.toList_ofList])

theorem locatedIn_emptyArgument (scanned : Token.scanFrom 0 text = before ++ token :: after)
    (isEnd : token.lexeme = .comma ∨ token.lexeme = .closing) :
    LocatedIn text (.emptyArgument token.position) := by
  have mark : ∃ c, (c = ',' ∨ c = ')') ∧ delimiter? c = some token.lexeme := by
    rcases isEnd with isComma | isClosing
    · exact ⟨',', Or.inl rfl, by rw [isComma]; rfl⟩
    · exact ⟨')', Or.inr rfl, by rw [isClosing]; rfl⟩
  obtain ⟨c, isStop, delimiter⟩ := mark
  obtain ⟨front, back, whole, cut⟩ := exists_cut delimiter scanned
  rw [cut.place, Nat.zero_add]
  exact .emptyArgument whole isStop

-- The name and the parenthesis behind it are neighbours, so there are only blanks between them.
theorem locatedIn_invalidFunctionName {position : Nat} {name : String}
    (scanned : Token.scanFrom 0 text = before ++ ⟨position, .run name⟩ :: token :: after)
    (isOpening : token.lexeme = .opening) (unnamed : Text.isName name = false) :
    LocatedIn text (.invalidFunctionName position name) := by
  have scans := scans_scanFrom 0 text
  rw [scanned] at scans
  obtain ⟨front, span, back, rfl, place, -, stands, scansBehind⟩ := scans.exists_token
  obtain ⟨blanks, mark, rest, rfl, -, scansBlanks, standsMark, -⟩ :=
    @Scans.exists_token [] _ [] after token back scansBehind
  obtain rfl : position = front.length := by simpa using place
  obtain rfl : mark = ['('] := standsMark.eq_of_delimiter? (by rw [isOpening]; rfl)
  cases scansBlanks with
  | nil blank =>
    cases stands with
    | delimiter isMark => simp [delimiter?_eq_some_iff] at isMark
    | run isRun ends noString =>
      exact .invalidFunctionName (by rw [String.toList_ofList]; rfl) blank unnamed

theorem locatedIn_of_reports {reason : ExprError}
    (scanned : Token.scanFrom 0 text = before ++ token :: after)
    (reports : Reports limit before token reason) : LocatedIn text reason := by
  cases reports with
  | unexpected => exact locatedIn_unexpected scanned
  | emptyArgument isEnd => exact locatedIn_emptyArgument scanned isEnd
  | invalidFunctionName last isOpening unnamed =>
    rw [last, List.append_assoc] at scanned
    exact locatedIn_invalidFunctionName scanned isOpening unnamed
  | nestingTooDeep => exact .nestingTooDeep limit

theorem locatedIn_of_parse {text : String} {reason : ExprError}
    (failed : parse limit text = .error reason) : LocatedIn text.toList reason := by
  obtain ⟨-, rfl⟩ | ⟨-, -, rfl⟩ | ⟨before, token, after, state, scanned, ran, stepped⟩ :=
    parse_error_cases failed
  · exact .emptyExpression
  · exact .unbalancedParentheses _ _
  · exact locatedIn_of_reports scanned (reports_of_step ran stepped)

theorem located_of_read {text : String} {invalid : InvalidExpr}
    (failed : read limit text = .error invalid) :
    invalid.expression = text ∧ invalid.Located := by
  obtain ⟨reason, refused, rfl⟩ := mapError_eq_error_iff.mp failed
  have place := locatedIn_of_parse refused
  exact ⟨rfl, place, place.position_lt⟩

end Expr
end StreamPlan
