import StreamPlan.Proofs.Expr.Outcome

/-! Positions are carried along and never looked at: tokens at other places are read to the same
tree, and refused with the same error at the other place. -/

set_option autoImplicit false

namespace StreamPlan

def ExprError.relocate (move : Nat → Nat) : ExprError → ExprError
  | .emptyArgument position => .emptyArgument (move position)
  | .unexpectedToken position token => .unexpectedToken (move position) token
  | .unexpectedEnd position => .unexpectedEnd (move position)
  | .invalidFunctionName position name => .invalidFunctionName (move position) name
  | reason => reason

namespace Expr

def Token.relocate (move : Nat → Nat) (token : Token) : Token :=
  { token with position := move token.position }

def State.relocate (move : Nat → Nat) : State → State
  | .afterRun position text calls => .afterRun (move position) text calls
  | state => state

def relocated (move : Nat → Nat) (result : Except ExprError State) : Except ExprError State :=
  (result.map (State.relocate move)).mapError (ExprError.relocate move)

section

variable {limit : Nat} {move : Nat → Nat}

theorem map_lexeme_relocate (tokens : List Token) :
    (tokens.map (Token.relocate move)).map (·.lexeme) = tokens.map (·.lexeme) := by
  rw [List.map_map]
  rfl

theorem startArgument_relocate (calls : List OpenCall) (token : Token) :
    State.startArgument calls (token.relocate move) =
      relocated move (State.startArgument calls token) := by
  obtain ⟨position, lexeme⟩ := token
  cases lexeme <;> rfl

theorem endArgument_relocate (node : Expr) (calls : List OpenCall) (token : Token) :
    State.endArgument node calls (token.relocate move) =
      relocated move (State.endArgument node calls token) := by
  obtain ⟨position, lexeme⟩ := token
  cases calls <;> cases lexeme <;> rfl

theorem step_relocate (state : State) (token : Token) :
    (state.relocate move).step limit (token.relocate move) =
      relocated move (state.step limit token) := by
  cases state with
  | expectArgument calls => exact startArgument_relocate calls token
  | callStart operation calls =>
    obtain ⟨position, lexeme⟩ := token
    cases lexeme <;> rfl
  | afterRun position text calls =>
    obtain ⟨place, lexeme⟩ := token
    cases lexeme with
    | opening =>
      simp only [State.step, State.relocate, Token.relocate]
      split_ifs <;> rfl
    | _ => exact endArgument_relocate _ calls _
  | afterArgument node calls => exact endArgument_relocate node calls token

theorem run_relocate (tokens : List Token) (state : State) :
    (tokens.map (Token.relocate move)).foldlM (State.step limit) (state.relocate move) =
      relocated move (tokens.foldlM (State.step limit) state) := by
  induction tokens generalizing state with
  | nil => rfl
  | cons token rest ih =>
    rw [List.map_cons, List.foldlM_cons, List.foldlM_cons, step_relocate]
    cases state.step limit token with
    | error reason => rfl
    | ok next => exact ih next

theorem finish_relocate (state : State) (position : Nat) :
    (state.relocate move).finish position = state.finish position := by
  cases state with
  | afterRun place text calls => cases calls <;> rfl
  | _ => rfl

-- Balanced tokens that are all read leave nothing to say about a place.
theorem ofTokens_relocate {tokens : List Token} (filled : tokens ≠ [])
    (balanced : (tokens.map (·.lexeme)).count .opening = (tokens.map (·.lexeme)).count .closing) :
    ofTokens limit (tokens.map (Token.relocate move)) =
      (ofTokens limit tokens).mapError (ExprError.relocate move) := by
  have moved : (tokens.map (Token.relocate move)).foldlM (State.step limit) (.expectArgument []) =
      relocated move (tokens.foldlM (State.step limit) (.expectArgument [])) :=
    run_relocate tokens (.expectArgument [])
  unfold ofTokens
  cases ran : tokens.foldlM (State.step limit) (.expectArgument []) with
  | error reason =>
    rw [moved, ran]
    rfl
  | ok state =>
    obtain ⟨node, finishes⟩ := finishes_of_balanced filled balanced ran
    rw [moved, ran]
    change (state.relocate move).finish _ = (state.finish _).mapError _
    rw [finish_relocate, finishes, finishes]
    rfl

end

theorem isAllBlank_iff_scan_eq_nil {text : String} :
    Text.isAllBlank text = true ↔ Token.scan text = [] :=
  ⟨scan_eq_nil_of_isAllBlank, isAllBlank_of_scan_eq_nil⟩

/-- Texts with the same tokens at other places. -/
theorem parse_relocate {text text' : String} {move : Nat → Nat}
    (scanned : Token.scan text' = (Token.scan text).map (Token.relocate move)) (limit : Nat) :
    parse limit text' = (parse limit text).mapError (ExprError.relocate move) := by
  have blank : Text.isAllBlank text' = Text.isAllBlank text := by
    rw [Bool.eq_iff_iff, isAllBlank_iff_scan_eq_nil, isAllBlank_iff_scan_eq_nil, scanned,
      List.map_eq_nil_iff]
  have count (lexeme : Lexeme) : occurrences text' lexeme = occurrences text lexeme := by
    rw [occurrences, scanned, map_lexeme_relocate, occurrences]
  cases filled : Text.isAllBlank text with
  | true => rw [parse, parse, if_pos filled, if_pos (blank.trans filled)]; rfl
  | false =>
    by_cases balanced : occurrences text .opening = occurrences text .closing
    · rw [parse_of_balanced filled balanced,
        parse_of_balanced (blank.trans filled) (by rwa [count, count]), scanned]
      exact ofTokens_relocate (scan_ne_nil filled) balanced
    · rw [parse_of_unbalanced filled balanced,
        parse_of_unbalanced (blank.trans filled) (by rwa [count, count]), count, count]
      rfl

end Expr
end StreamPlan
