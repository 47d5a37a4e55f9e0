import StreamPlan.Json.Writer
import StreamPlan.Proofs.Json.Numbers
import StreamPlan.Proofs.Json.Strings

/-! Text that consists of tokens with spaces between them is scanned as these tokens, and so is
what a value is written as, on one line or indented. -/

set_option autoImplicit false

namespace StreamPlan.Json

namespace Token

def IsWritten : Token → Prop
  | .number text => IsNumberText text.toList
  | .string text => text.isSome = true
  | _ => True

def EndsBefore (rest : List Char) : Token → Prop
  | .number _ => ∀ c ∈ rest.head?, isNumberChar c = false
  | _ => True

theorem head_of_isNumber {c : Char} {tail : List Char} (number : isNumber (c :: tail) = true) :
    c = '-' ∨ c.isDigit = true := by
  by_contra other
  obtain ⟨notSign, notDigit⟩ := not_or.mp other
  have unsigned : withoutMinus (c :: tail) = c :: tail := by
    unfold withoutMinus
    split
    · simp_all
    · rfl
  simp [isNumber, unsigned, notDigit, isWhole, Numeral.isDigits] at number

theorem next?_number {c : Char} {tail rest : List Char} (text : IsNumberText (c :: tail))
    (stop : ∀ d ∈ rest.head?, isNumberChar d = false) :
    next? c (tail ++ rest) = some (.number (String.ofList (c :: tail)), rest) := by
  have start := head_of_isNumber text.number
  have noPunctuation : punctuation? c = none := by
    unfold punctuation?
    split <;> first | rfl | (revert start; decide)
  have noQuote : c ≠ '"' := by
    rintro rfl
    revert start
    decide
  have inside := (List.forall_mem_cons.mp text.numeric).2
  unfold next?
  rw [noPunctuation]
  dsimp only
  rw [if_neg noQuote, if_pos start, Text.takeWhile_append_stop inside stop,
    Text.dropWhile_append_stop inside stop, if_pos text.number]

theorem not_isSpace_of_start {c : Char} (start : c = '-' ∨ c.isDigit = true) :
    isSpace c = false := by
  apply Bool.eq_false_iff.mpr
  intro space
  simp only [isSpace, Bool.or_eq_true, beq_iff_eq] at space
  rcases space with ((rfl | rfl) | rfl) | rfl <;> revert start <;> decide

/-- A token is scanned from its characters. -/
theorem scan_chars {token : Token} {rest : List Char} (written : token.IsWritten)
    (ends : token.EndsBefore rest) (read : List Token) :
    scan read (token.chars ++ rest) = scan (token :: read) rest := by
  cases token with
  | number text =>
    have number : IsNumberText text.toList := written
    cases same : text.toList with
    | nil =>
      rw [same] at number
      exact absurd number.number (by decide)
    | cons c tail =>
      rw [same] at number
      have found := next?_number number ends
      rw [← same, String.ofList_toList] at found
      rw [chars, same]
      exact scan_token (not_isSpace_of_start (head_of_isNumber number.number)) found read
  | string text =>
    obtain ⟨content, rfl⟩ := Option.isSome_iff_exists.mp written
    have found := next?_quote content rest
    rw [chars, quote, Option.getD_some, List.cons_append, List.append_assoc]
    exact scan_token rfl found read
  | bool value => cases value <;> exact scan_token rfl rfl read
  | _ => exact scan_token rfl rfl read

inductive Writes : List Char → List Token → Prop where
  | nil : Writes [] []
  | space {c : Char} {cs : List Char} {tokens : List Token} (space : isSpace c = true)
      (writes : Writes cs tokens) : Writes (c :: cs) tokens
  | token {token : Token} {cs : List Char} {tokens : List Token} (written : token.IsWritten)
      (ends : token.EndsBefore cs) (writes : Writes cs tokens) :
      Writes (token.chars ++ cs) (token :: tokens)

theorem Writes.scan {cs : List Char} {tokens : List Token} (writes : Writes cs tokens)
    (read : List Token) : Token.scan read cs = some (read.reverse ++ tokens) := by
  induction writes generalizing read with
  | nil => simp
  | space space writes ih => rw [scan_space space, ih]
  | token written ends writes ih =>
    rw [scan_chars written ends, ih]
    simp

end Token
end StreamPlan.Json
