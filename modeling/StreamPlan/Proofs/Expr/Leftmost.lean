import StreamPlan.Proofs.Expr.DepthLimit

/-! Errors are found at the earliest place. What has been read up to an error can be completed to an
expression: the state that was reached says how, by an argument where one is awaited and by closing
the calls that are open. With the token at which the error is found it can no longer be completed,
since every completion would be read past this token. -/

set_option autoImplicit false

namespace StreamPlan.Expr

variable {limit : Nat}

def Viable (limit : Nat) (seen : List Lexeme) : Prop :=
  ∃ rest node, Derives (seen ++ rest) node ∧ node.depth ≤ limit

theorem awaits_or_holds (state : State) :
    (∃ calls, Awaits state calls) ∨ ∃ node calls, Holds state node calls := by
  cases state with
  | expectArgument calls => exact Or.inl ⟨calls, .argument calls⟩
  | callStart name calls => exact Or.inl ⟨_, .first name calls⟩
  | afterRun position text calls => exact Or.inr ⟨_, calls, .run position text calls⟩
  | afterArgument node calls => exact Or.inr ⟨node, calls, .argument node calls⟩

-- Each closing parenthesis makes the innermost open call the last argument of the next.
theorem Holds.close {state : State} {node : Expr} {calls : List OpenCall}
    (holds : Holds state node calls) (limit : Nat) :
    ∃ next whole, Holds next whole [] ∧
      (List.replicate calls.length (Token.mk 0 .closing)).foldlM (State.step limit) state =
        .ok next := by
  induction calls generalizing state node with
  | nil => exact ⟨state, node, holds, rfl⟩
  | cons inner outer ih =>
    obtain ⟨next, whole, closed, ran⟩ :=
      ih (.argument (.call inner.operation (node :: inner.arguments).reverse) outer)
    refine ⟨next, whole, closed, ?_⟩
    rw [List.length_cons, List.replicate_succ, run_cons (holds.step_closing rfl)]
    exact ran

theorem exists_completion (limit : Nat) (state : State) :
    ∃ (tokens : List Token) (next : State) (whole : Expr),
      Holds next whole [] ∧ tokens.foldlM (State.step limit) state = .ok next := by
  rcases awaits_or_holds state with ⟨calls, awaits⟩ | ⟨node, calls, holds⟩
  · obtain ⟨next, whole, closed, ran⟩ := (Holds.run 0 "x" calls).close limit
    refine ⟨⟨0, .run "x"⟩ :: List.replicate calls.length ⟨0, .closing⟩, next, whole, closed, ?_⟩
    rw [run_cons (awaits.step_run rfl)]
    exact ran
  · obtain ⟨next, whole, closed, ran⟩ := holds.close limit
    exact ⟨_, next, whole, closed, ran⟩

theorem viable_of_run {tokens : List Token} {state : State}
    (ran : tokens.foldlM (State.step limit) (.expectArgument []) = .ok state) :
    Viable limit (tokens.map (·.lexeme)) := by
  obtain ⟨rest, next, whole, closed, completed⟩ := exists_completion limit state
  have read : ofTokens limit (tokens ++ rest) = .ok whole := by
    rw [ofTokens, run_append ran, completed]
    exact closed.finish _
  obtain ⟨derived, fits⟩ := derives_of_ofTokens read
  rw [List.map_append] at derived
  exact ⟨_, whole, derived, fits⟩

theorem not_viable_of_step {before : List Token} {token : Token} {state : State}
    {reason : ExprError}
    (ran : before.foldlM (State.step limit) (.expectArgument []) = .ok state)
    (failed : state.step limit token = .error reason) :
    ¬ Viable limit ((before ++ [token]).map (·.lexeme)) := by
  rintro ⟨rest, node, derived, fits⟩
  -- places do not matter, so the completion may be read as tokens at any
  have spelled : (before ++ token :: rest.map (Token.mk 0)).map (·.lexeme) =
      (before ++ [token]).map (·.lexeme) ++ rest := by
    simp [Function.comp_def]
  rw [← spelled] at derived
  have read := ofTokens_of_derives derived fits
  rw [ofTokens, run_append ran, List.foldlM_cons, failed] at read
  cases read

/-- The errors that a token may lead to after other tokens. A call is refused at its opening
parenthesis, and the error is about the name before it. -/
inductive Reports (limit : Nat) (before : List Token) (token : Token) : ExprError → Prop where
  | unexpected : Reports limit before token (.unexpectedToken token.position token.lexeme.render)
  | emptyArgument (isEnd : token.lexeme = .comma ∨ token.lexeme = .closing) :
      Reports limit before token (.emptyArgument token.position)
  | invalidFunctionName {front : List Token} {position : Nat} {name : String}
      (last : before = front ++ [⟨position, .run name⟩]) (isOpening : token.lexeme = .opening)
      (unnamed : Text.isName name = false) :
      Reports limit before token (.invalidFunctionName position name)
  | nestingTooDeep {front : List Token} {position : Nat} {name : String}
      (last : before = front ++ [⟨position, .run name⟩]) (isOpening : token.lexeme = .opening)
      (named : Text.isName name = true)
      (deep : balance ((before ++ [token]).map (·.lexeme)) = limit + 1) :
      Reports limit before token (.nestingTooDeep limit)

-- Only a run leads to the state after a run.
theorem eq_run_of_step {state : State} {token : Token} {position : Nat} {name : String}
    {calls : List OpenCall} (stepped : state.step limit token = .ok (.afterRun position name calls)) :
    token = ⟨position, .run name⟩ := by
  have started {outer : List OpenCall}
      (stepped : State.startArgument outer token = .ok (.afterRun position name calls)) :
      token = ⟨position, .run name⟩ := by
    unfold State.startArgument at stepped
    split at stepped <;> cases stepped
    rename_i isRun
    rw [← isRun]
  have notEnded {node : Expr} {outer : List OpenCall} :
      State.endArgument node outer token ≠ .ok (.afterRun position name calls) := by
    unfold State.endArgument
    split <;> nofun
  cases state with
  | expectArgument outer => exact started stepped
  | callStart operation outer =>
    simp only [State.step] at stepped
    split at stepped
    · cases stepped
    · exact started stepped
  | afterRun position' text outer =>
    simp only [State.step] at stepped
    split at stepped
    · split_ifs at stepped
      cases stepped
    · exact absurd stepped notEnded
  | afterArgument node outer => exact absurd stepped notEnded

theorem exists_run_of_afterRun {tokens : List Token} {position : Nat} {name : String}
    {calls : List OpenCall}
    (ran : tokens.foldlM (State.step limit) (.expectArgument []) =
      .ok (.afterRun position name calls)) :
    ∃ front, tokens = front ++ [⟨position, .run name⟩] := by
  rcases List.eq_nil_or_concat' tokens with rfl | ⟨front, token, rfl⟩
  · cases ran
  · rw [List.foldlM_append, bind_eq_ok_iff] at ran
    obtain ⟨state, -, stepped⟩ := ran
    rw [List.foldlM_cons, bind_eq_ok_iff] at stepped
    obtain ⟨next, stepped, last⟩ := stepped
    cases last
    exact ⟨front, by rw [eq_run_of_step stepped]⟩

theorem reports_of_step {before : List Token} {token : Token} {state : State} {reason : ExprError}
    (ran : before.foldlM (State.step limit) (.expectArgument []) = .ok state)
    (failed : state.step limit token = .error reason) : Reports limit before token reason := by
  cases refuses_of_step failed with
  | unexpected => exact .unexpected
  | emptyArgument isEnd => exact .emptyArgument isEnd
  | invalidFunctionName isOpening unnamed =>
    obtain ⟨front, last⟩ := exists_run_of_afterRun ran
    exact .invalidFunctionName last isOpening unnamed
  | nestingTooDeep isOpening named full =>
    obtain ⟨front, last⟩ := exists_run_of_afterRun ran
    refine .nestingTooDeep last isOpening named ?_
    -- as many calls are open as the limit allows, and no more
    have reached := reaches_of_run ran
    have counted : balance (before.map (·.lexeme)) = _ := reached.balance_eq
    have bounded := reached.depth_le
    rw [List.map_append, List.map_singleton, isOpening, balance_append_opening, counted]
    simp only [State.depth] at bounded ⊢
    omega

/-- A text whose parentheses balance is refused at the first token with which its tokens are no
longer the beginning of an expression within the limit. The error names this token; where it is the
parenthesis of a call, the error is about the call. -/
theorem parse_error_leftmost {text : String} {reason : ExprError}
    (balanced : occurrences text .opening = occurrences text .closing)
    (failed : parse limit text = .error reason) :
    (Text.isAllBlank text = true ∧ reason = .emptyExpression) ∨
    ∃ before token after, Token.scan text = before ++ token :: after ∧
      Reports limit before token reason ∧ Viable limit (before.map (·.lexeme)) ∧
      ¬ Viable limit ((before ++ [token]).map (·.lexeme)) := by
  obtain blank | ⟨-, unbalanced, -⟩ | ⟨before, token, after, state, scanned, ran, stepped⟩ :=
    parse_error_cases failed
  · exact Or.inl blank
  · exact absurd balanced unbalanced
  · exact Or.inr ⟨before, token, after, scanned, reports_of_step ran stepped, viable_of_run ran,
      not_viable_of_step ran stepped⟩

/-- A name with a blank in it may be an argument but not the name of a call, and a call may not be
an argument of as many calls as are allowed. -/
theorem parse_error_leftmost_calls :
    (parse 2 "f(g h(x))" = .error (.invalidFunctionName 2 "g h") ∧
      Viable 2 [.run "f", .opening, .run "g h"] ∧
      ¬ Viable 2 [.run "f", .opening, .run "g h", .opening]) ∧
    parse 1 "f(x, g(y))" = .error (.nestingTooDeep 1) ∧
      Viable 1 [.run "f", .opening, .run "x", .comma, .run "g"] ∧
      ¬ Viable 1 [.run "f", .opening, .run "x", .comma, .run "g", .opening] := by
  constructor
  · have failed : parse 2 "f(g h(x))" = .error (.invalidFunctionName 2 "g h") := by decide +kernel
    have scanned : Token.scan "f(g h(x))" = [⟨0, .run "f"⟩, ⟨1, .opening⟩, ⟨2, .run "g h"⟩,
        ⟨5, .opening⟩, ⟨6, .run "x"⟩, ⟨7, .closing⟩, ⟨8, .closing⟩] := by decide +kernel
    rcases parse_error_leftmost (by decide +kernel) failed with ⟨-, blank⟩ |
      ⟨before, token, after, split, reports, viable, notViable⟩
    · cases blank
    · cases reports with
      | @invalidFunctionName front position name last isOpening unnamed =>
        obtain ⟨rfl, rfl⟩ : front = [⟨0, .run "f"⟩, ⟨1, .opening⟩] ∧ token = ⟨5, .opening⟩ := by
          rw [scanned, last] at split
          simp [List.cons_eq_append_iff] at split
          grind
        subst last
        exact ⟨failed, viable, notViable⟩
  · have failed : parse 1 "f(x, g(y))" = .error (.nestingTooDeep 1) := by decide +kernel
    have scanned : Token.scan "f(x, g(y))" = [⟨0, .run "f"⟩, ⟨1, .opening⟩, ⟨2, .run "x"⟩,
        ⟨3, .comma⟩, ⟨5, .run "g"⟩, ⟨6, .opening⟩, ⟨7, .run "y"⟩, ⟨8, .closing⟩,
        ⟨9, .closing⟩] := by decide +kernel
    rcases parse_error_leftmost (by decide +kernel) failed with ⟨-, blank⟩ |
      ⟨before, token, after, split, reports, viable, notViable⟩
    · cases blank
    · cases reports with
      | @nestingTooDeep front position name last isOpening named deep =>
        obtain ⟨rfl, rfl⟩ : before = [⟨0, .run "f"⟩, ⟨1, .opening⟩, ⟨2, .run "x"⟩, ⟨3, .comma⟩,
            ⟨5, .run "g"⟩] ∧ token = ⟨6, .opening⟩ := by
          rw [scanned] at split
          simp [List.cons_eq_append_iff] at split
          rcases split with ⟨rfl, rfl, -⟩ | ⟨_, rfl, ⟨rfl, rfl, -⟩ | later⟩
          · cases isOpening
          · cases deep
          · grind
        exact ⟨failed, viable, notViable⟩

end StreamPlan.Expr
