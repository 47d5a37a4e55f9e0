import StreamPlan.Proofs.Except
import StreamPlan.Proofs.Expr.Cutting
import StreamPlan.Proofs.Expr.Parsing
import StreamPlan.Proofs.Expr.Spans

/-! What parsing may end in. The parentheses read so far say how many calls are open, so that a
balanced text has nothing left open at its end, and every error found in it stands at a token. -/

set_option autoImplicit false

namespace StreamPlan.Expr

variable {limit : Nat}

def State.depth : State → Nat
  | .expectArgument calls => calls.length
  | .callStart _ calls => calls.length + 1
  | .afterRun _ _ calls => calls.length
  | .afterArgument _ calls => calls.length

theorem Opens.count_opening {seen : List Lexeme} {calls : List OpenCall}
    (opens : Opens limit seen calls) :
    seen.count .opening = seen.count .closing + calls.length := by
  induction opens with
  | nil => rfl
  | @cons seen name arguments outer opens named bounded derived fits ih =>
    -- the arguments read are a list with nothing behind its last comma
    have each : ∀ piece ∈ arguments.map (·.1) ++ [[]],
        piece.count .opening = piece.count .closing :=
      List.forall_mem_append.mpr
        ⟨List.forall_mem_map.mpr fun argument member => (derived argument member).balanced, by simp⟩
    have balanced := balanced_separated each
    rw [separated_concat, List.append_nil, List.flatMap_map] at balanced
    simp [List.count_append, balanced, ih]
    omega

-- Each parenthesis read opens a call or closes one, in whatever order they come.
theorem Reaches.count_opening {seen : List Lexeme} {state : State}
    (reached : Reaches limit seen state) :
    seen.count .opening = seen.count .closing + state.depth := by
  cases reached with
  | expectArgument opens => exact opens.count_opening
  | callStart opens named bounded =>
    have counted := opens.count_opening
    simp [List.count_append, State.depth]
    omega
  | afterRun opens position text =>
    have counted := opens.count_opening
    simpa [List.count_append, State.depth] using counted
  | afterArgument opens derived fits =>
    have counted := opens.count_opening
    have balanced := derived.balanced
    simp only [List.count_append, State.depth]
    omega

theorem Reaches.finishes {seen : List Lexeme} {state : State} (reached : Reaches limit seen state)
    (filled : seen ≠ []) (closed : state.depth = 0) :
    ∃ node, ∀ position, state.finish position = .ok node := by
  cases reached with
  | expectArgument opens =>
    cases opens with
    | nil => exact absurd rfl filled
    | cons => cases closed
  | callStart => cases closed
  | @afterRun seen calls opens position text =>
    cases calls with
    | nil => exact ⟨.literal (.classify text), fun _ => rfl⟩
    | cons => cases closed
  | @afterArgument seen lexemes calls node opens derived fits =>
    cases calls with
    | nil => exact ⟨node, fun _ => rfl⟩
    | cons => cases closed

/-- Balanced tokens that have all been read make an expression. -/
theorem finishes_of_balanced {tokens : List Token} {state : State} (filled : tokens ≠ [])
    (balanced : (tokens.map (·.lexeme)).count .opening = (tokens.map (·.lexeme)).count .closing)
    (ran : tokens.foldlM (State.step limit) (.expectArgument []) = .ok state) :
    ∃ node, ∀ position, state.finish position = .ok node := by
  have reached := reaches_of_run ran
  have counted := reached.count_opening
  exact reached.finishes (by simpa using filled) (by omega)

inductive Fault (limit : Nat) (token : Token) : ExprError → Prop where
  | unexpected : Fault limit token (State.unexpected token)
  | emptyArgument (isEnd : token.lexeme = .comma ∨ token.lexeme = .closing) :
      Fault limit token (.emptyArgument token.position)
  | invalidFunctionName (isOpening : token.lexeme = .opening) (position : Nat) (name : String) :
      Fault limit token (.invalidFunctionName position name)
  | nestingTooDeep (isOpening : token.lexeme = .opening) :
      Fault limit token (.nestingTooDeep limit)

/-- Why a state refuses a token. Calls are refused at their opening parenthesis, for the name that
was read before it or for the number of calls that are open. -/
inductive Refuses (limit : Nat) (token : Token) : State → ExprError → Prop where
  | unexpected {state : State} : Refuses limit token state (State.unexpected token)
  | emptyArgument {state : State} (isEnd : token.lexeme = .comma ∨ token.lexeme = .closing) :
      Refuses limit token state (.emptyArgument token.position)
  | invalidFunctionName {position : Nat} {name : String} {calls : List OpenCall}
      (isOpening : token.lexeme = .opening) (unnamed : Text.isName name = false) :
      Refuses limit token (.afterRun position name calls) (.invalidFunctionName position name)
  | nestingTooDeep {position : Nat} {name : String} {calls : List OpenCall}
      (isOpening : token.lexeme = .opening) (named : Text.isName name = true)
      (full : limit ≤ calls.length) :
      Refuses limit token (.afterRun position name calls) (.nestingTooDeep limit)

section

variable {token : Token} {reason : ExprError}

theorem refuses_of_startArgument {calls : List OpenCall}
    (failed : State.startArgument calls token = .error reason) (state : State) :
    Refuses limit token state reason := by
  unfold State.startArgument at failed
  split at failed
  · cases failed
  · cases failed
  · cases failed
    exact .unexpected
  · rename_i isComma
    cases failed
    exact .emptyArgument (Or.inl isComma)
  · rename_i isClosing
    cases failed
    exact .emptyArgument (Or.inr isClosing)

theorem refuses_of_endArgument {node : Expr} {calls : List OpenCall}
    (failed : State.endArgument node calls token = .error reason) (state : State) :
    Refuses limit token state reason := by
  unfold State.endArgument at failed
  split at failed
  · cases failed
  · cases failed
  · cases failed
    exact .unexpected

theorem refuses_of_step {state : State} (failed : state.step limit token = .error reason) :
    Refuses limit token state reason := by
  cases state with
  | expectArgument calls => exact refuses_of_startArgument failed _
  | callStart operation calls =>
    simp only [State.step] at failed
    split at failed
    · cases failed
    · exact refuses_of_startArgument failed _
  | afterRun position text calls =>
    simp only [State.step] at failed
    split at failed
    · rename_i isOpening
      split at failed
      · rename_i unnamed
        cases failed
        exact .invalidFunctionName isOpening (by simpa using unnamed)
      · rename_i named
        split at failed
        · rename_i full
          cases failed
          exact .nestingTooDeep isOpening (by simpa using named) full
        · cases failed
    · exact refuses_of_endArgument failed _
  | afterArgument node calls => exact refuses_of_endArgument failed _

theorem Refuses.fault {state : State} (refuses : Refuses limit token state reason) :
    Fault limit token reason := by
  cases refuses with
  | unexpected => exact .unexpected
  | emptyArgument isEnd => exact .emptyArgument isEnd
  | invalidFunctionName isOpening unnamed => exact .invalidFunctionName isOpening _ _
  | nestingTooDeep isOpening named full => exact .nestingTooDeep isOpening

end

/-- Balanced tokens are refused at one of them, after those before it have been read. -/
theorem exists_failed_step {tokens : List Token} {reason : ExprError} (filled : tokens ≠ [])
    (balanced : (tokens.map (·.lexeme)).count .opening = (tokens.map (·.lexeme)).count .closing)
    (failed : ofTokens limit tokens = .error reason) :
    ∃ before token after state, tokens = before ++ token :: after ∧
      before.foldlM (State.step limit) (.expectArgument []) = .ok state ∧
      state.step limit token = .error reason := by
  unfold ofTokens at failed
  cases ran : tokens.foldlM (State.step limit) (.expectArgument []) with
  | error reason' =>
    rw [ran] at failed
    cases failed
    exact foldlM_eq_error ran
  | ok state =>
    obtain ⟨node, finishes⟩ := finishes_of_balanced filled balanced ran
    rw [ran] at failed
    cases (finishes (endPosition tokens)).symm.trans failed

def occurrences (text : String) (lexeme : Lexeme) : Nat :=
  ((Token.scan text).map (·.lexeme)).count lexeme

theorem parse_of_balanced {text : String} (filled : Text.isAllBlank text = false)
    (balanced : occurrences text .opening = occurrences text .closing) :
    parse limit text = ofTokens limit (Token.scan text) := by
  unfold occurrences at balanced
  simp [parse, filled, countP_lexeme, balanced]

theorem parse_of_unbalanced {text : String} (filled : Text.isAllBlank text = false)
    (unbalanced : occurrences text .opening ≠ occurrences text .closing) :
    parse limit text =
      .error (.unbalancedParentheses (occurrences text .opening) (occurrences text .closing)) := by
  unfold occurrences at unbalanced
  simp [parse, filled, countP_lexeme, unbalanced, occurrences]

theorem scan_ne_nil {text : String} (filled : Text.isAllBlank text = false) :
    Token.scan text ≠ [] := by
  intro empty
  rw [isAllBlank_of_scan_eq_nil empty] at filled
  cases filled

/-- Why a text is refused: it is blank, its parentheses do not balance, or one of its tokens is
wrong. -/
inductive Refused (limit : Nat) (text : String) : ExprError → Prop where
  | blank (blank : Text.isAllBlank text = true) : Refused limit text .emptyExpression
  | unbalanced (filled : Text.isAllBlank text = false)
      (unbalanced : occurrences text .opening ≠ occurrences text .closing) :
      Refused limit text
        (.unbalancedParentheses (occurrences text .opening) (occurrences text .closing))
  | token {token : Token} {reason : ExprError} (member : token ∈ Token.scan text)
      (fault : Fault limit token reason) : Refused limit text reason

section

variable {text : String}

theorem parse_error_cases {reason : ExprError} (failed : parse limit text = .error reason) :
    (Text.isAllBlank text = true ∧ reason = .emptyExpression) ∨
    (Text.isAllBlank text = false ∧ occurrences text .opening ≠ occurrences text .closing ∧
      reason =
        .unbalancedParentheses (occurrences text .opening) (occurrences text .closing)) ∨
    ∃ before token after state, Token.scan text = before ++ token :: after ∧
      before.foldlM (State.step limit) (.expectArgument []) = .ok state ∧
      state.step limit token = .error reason := by
  cases filled : Text.isAllBlank text with
  | true =>
    rw [parse, if_pos filled] at failed
    cases failed
    exact Or.inl ⟨rfl, rfl⟩
  | false =>
    by_cases balanced : occurrences text .opening = occurrences text .closing
    · rw [parse_of_balanced filled balanced] at failed
      exact Or.inr (Or.inr (exists_failed_step (scan_ne_nil filled) balanced failed))
    · rw [parse_of_unbalanced filled balanced] at failed
      cases failed
      exact Or.inr (Or.inl ⟨rfl, balanced, rfl⟩)

theorem refused_of_parse {reason : ExprError} (failed : parse limit text = .error reason) :
    Refused limit text reason := by
  obtain ⟨blank, rfl⟩ | ⟨filled, unbalanced, rfl⟩ |
    ⟨before, token, after, state, scanned, -, stepped⟩ := parse_error_cases failed
  · exact .blank blank
  · exact .unbalanced filled unbalanced
  · exact .token (by simp [scanned]) (refuses_of_step stepped).fault

theorem parse_eq_emptyExpression_iff :
    parse limit text = .error .emptyExpression ↔ Text.isAllBlank text = true := by
  constructor
  · intro failed
    cases refused_of_parse failed with
    | blank blank => exact blank
    | token member fault => cases fault
  · intro blank
    rw [parse, if_pos blank]

theorem parse_eq_unbalancedParentheses_iff {opening closing : Nat} :
    parse limit text = .error (.unbalancedParentheses opening closing) ↔
      Text.isAllBlank text = false ∧ opening ≠ closing ∧
        opening = occurrences text .opening ∧ closing = occurrences text .closing := by
  constructor
  · intro failed
    cases refused_of_parse failed with
    | unbalanced filled unbalanced => exact ⟨filled, unbalanced, rfl, rfl⟩
    | token member fault => cases fault
  · rintro ⟨filled, unbalanced, rfl, rfl⟩
    exact parse_of_unbalanced filled unbalanced

theorem parse_ne_unexpectedEnd (position : Nat) :
    parse limit text ≠ .error (.unexpectedEnd position) := by
  intro failed
  cases refused_of_parse failed with
  | token member fault => cases fault

theorem exists_end_of_emptyArgument {position : Nat}
    (failed : parse limit text = .error (.emptyArgument position)) :
    ∃ token ∈ Token.scan text, token.position = position ∧
      ((token.lexeme = .comma ∧ text.toList[position]? = some ',') ∨
        (token.lexeme = .closing ∧ text.toList[position]? = some ')')) := by
  cases refused_of_parse failed with
  | @token token _ member fault =>
    cases fault with
    | emptyArgument isEnd =>
      refine ⟨token, member, rfl, ?_⟩
      rcases isEnd with isComma | isClosing
      · exact Or.inl ⟨isComma, getElem?_position (by rw [isComma]; rfl) member⟩
      · exact Or.inr ⟨isClosing, getElem?_position (by rw [isClosing]; rfl) member⟩

end

/-- Blank and unbalanced texts are told apart from all others and refused as such. In any other
text the end is reached with nothing left to read, and an argument is missing only in front of a
comma or a closing parenthesis. -/
theorem parse_outcome (limit : Nat) (text : String) :
    (parse limit text = .error .emptyExpression ↔ Text.isAllBlank text = true) ∧
    (∀ opening closing, parse limit text = .error (.unbalancedParentheses opening closing) ↔
      Text.isAllBlank text = false ∧ opening ≠ closing ∧
        opening = occurrences text .opening ∧ closing = occurrences text .closing) ∧
    (Text.isAllBlank text = false → occurrences text .opening = occurrences text .closing →
      ∀ state, (Token.scan text).foldlM (State.step limit) (.expectArgument []) = .ok state →
        ∃ node, ∀ position, state.finish position = .ok node) ∧
    (∀ position, parse limit text ≠ .error (.unexpectedEnd position)) ∧
    ∀ position, parse limit text = .error (.emptyArgument position) →
      ∃ token ∈ Token.scan text, token.position = position ∧
        ((token.lexeme = .comma ∧ text.toList[position]? = some ',') ∨
          (token.lexeme = .closing ∧ text.toList[position]? = some ')')) := by
  refine ⟨parse_eq_emptyExpression_iff, fun _ _ => parse_eq_unbalancedParentheses_iff, ?_,
    parse_ne_unexpectedEnd, fun _ => exists_end_of_emptyArgument⟩
  intro filled balanced state ran
  exact finishes_of_balanced (scan_ne_nil filled) balanced ran

/-- Balanced, although nothing is open where the first parenthesis closes. -/
theorem parse_outcome_misordered :
    parse 64 " )(" = .error (.emptyArgument 1) ∧
      ∃ token ∈ Token.scan " )(", token.position = 1 ∧
        ((token.lexeme = .comma ∧ " )(".toList[1]? = some ',') ∨
          (token.lexeme = .closing ∧ " )(".toList[1]? = some ')')) := by
  have failed : parse 64 " )(" = .error (.emptyArgument 1) := by decide +kernel
  exact ⟨failed, (parse_outcome 64 " )(").2.2.2.2 1 failed⟩

end StreamPlan.Expr
