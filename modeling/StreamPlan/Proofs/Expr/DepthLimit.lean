import Mathlib.Order.Bounds.Basic
import StreamPlan.Proofs.Expr.Outcome

/-! What the depth limit does: it cuts a run short at the first call that is nested too deep, and has
no other effect. A text is read where the limit is no less than the depth of its tree, which is the
greatest number of parentheses open at a time. -/

set_option autoImplicit false

namespace StreamPlan.Expr

variable {limit limit' : Nat}

-- The limit is looked at where a call opens, and a call that the greater limit refuses the lesser
-- refuses as well.
theorem State.step_limit (lower : limit ≤ limit') (state : State) (token : Token) :
    state.step limit token = .error (.nestingTooDeep limit) ∨
      state.step limit' token = state.step limit token := by
  cases state with
  | expectArgument calls => exact Or.inr rfl
  | callStart operation calls => exact Or.inr rfl
  | afterArgument node calls => exact Or.inr rfl
  | afterRun position text calls =>
    simp only [State.step]
    split
    · by_cases named : Text.isName text = true
      · by_cases deep : limit ≤ calls.length
        · left
          simp [named, deep]
        · right
          simp [named, deep, mt lower.trans deep]
      · right
        simp [named]
    · exact Or.inr rfl

theorem run_limit (lower : limit ≤ limit') (tokens : List Token) (state : State) :
    tokens.foldlM (State.step limit) state = .error (.nestingTooDeep limit) ∨
      tokens.foldlM (State.step limit') state = tokens.foldlM (State.step limit) state := by
  induction tokens generalizing state with
  | nil => exact Or.inr rfl
  | cons token rest ih =>
    rw [List.foldlM_cons, List.foldlM_cons]
    rcases state.step_limit lower token with deep | same
    · rw [deep]
      exact Or.inl rfl
    · rw [same]
      cases state.step limit token with
      | error reason => exact Or.inr rfl
      | ok next => exact ih next

theorem ofTokens_limit (lower : limit ≤ limit') (tokens : List Token) :
    ofTokens limit tokens = .error (.nestingTooDeep limit) ∨
      ofTokens limit' tokens = ofTokens limit tokens := by
  unfold ofTokens
  rcases run_limit lower tokens (.expectArgument []) with deep | same
  · rw [deep]
    exact Or.inl rfl
  · rw [same]
    exact Or.inr rfl

theorem parse_limit (lower : limit ≤ limit') (text : String) :
    parse limit text = .error (.nestingTooDeep limit) ∨
      parse limit' text = parse limit text := by
  simp only [parse]
  split
  · exact Or.inr rfl
  split
  · exact Or.inr rfl
  · exact ofTokens_limit lower (Token.scan text)

/-- The number of parentheses open after some lexemes. -/
def balance (seen : List Lexeme) : Int := seen.count .opening - seen.count .closing

theorem balance_append_opening (seen : List Lexeme) :
    balance (seen ++ [.opening]) = balance seen + 1 := by
  simp [balance]
  omega

theorem Reaches.balance_eq {seen : List Lexeme} {state : State}
    (reached : Reaches limit seen state) : balance seen = state.depth := by
  have counted := reached.count_opening
  unfold balance
  omega

theorem Reaches.depth_le {seen : List Lexeme} {state : State}
    (reached : Reaches limit seen state) : state.depth ≤ limit := by
  cases reached with
  | expectArgument opens => exact opens.length_le
  | callStart opens named bounded => exact bounded
  | afterRun opens position text => exact opens.length_le
  | afterArgument opens derived fits => exact opens.length_le

theorem balance_le_of_run {tokens : List Token} {state : State}
    (ran : tokens.foldlM (State.step limit) (.expectArgument []) = .ok state)
    {seen : List Lexeme} (front : seen <+: tokens.map (·.lexeme)) : balance seen ≤ limit := by
  obtain ⟨rest, whole⟩ := front
  obtain ⟨before, after, rfl, rfl, -⟩ := List.map_eq_append_iff.mp whole.symm
  rw [List.foldlM_append, bind_eq_ok_iff] at ran
  obtain ⟨middle, ran, -⟩ := ran
  have reached := reaches_of_run ran
  rw [reached.balance_eq]
  exact Int.ofNat_le.mpr reached.depth_le

-- A call is nested too deep where it opens although as many are open as the limit allows.
theorem opening_of_nestingTooDeep {state : State} {token : Token} {bound : Nat}
    (failed : state.step limit token = .error (.nestingTooDeep bound)) :
    token.lexeme = .opening ∧ limit ≤ state.depth := by
  cases refuses_of_step failed with
  | nestingTooDeep isOpening named full => exact ⟨isOpening, full⟩

theorem finish_ne_nestingTooDeep (state : State) (position bound : Nat) :
    state.finish position ≠ .error (.nestingTooDeep bound) := by
  unfold State.finish
  split <;> nofun

theorem exists_balance_of_nestingTooDeep {tokens : List Token} {bound : Nat}
    (failed : ofTokens limit tokens = .error (.nestingTooDeep bound)) :
    ∃ seen, seen <+: tokens.map (·.lexeme) ∧ balance seen = limit + 1 := by
  unfold ofTokens at failed
  cases ran : tokens.foldlM (State.step limit) (.expectArgument []) with
  | ok state =>
    rw [ran] at failed
    exact absurd failed (finish_ne_nestingTooDeep state _ bound)
  | error reason =>
    rw [ran] at failed
    cases failed
    obtain ⟨before, token, after, state, rfl, ran, stepped⟩ := foldlM_eq_error ran
    obtain ⟨isOpening, full⟩ := opening_of_nestingTooDeep stepped
    have reached := reaches_of_run ran
    have counted := reached.balance_eq
    have bounded := reached.depth_le
    refine ⟨before.map (·.lexeme) ++ [.opening], ⟨after.map (·.lexeme), by simp [isOpening]⟩, ?_⟩
    rw [balance_append_opening]
    omega

theorem ofTokens_of_lt {tokens : List Token} {node : Expr}
    (derived : Derives (tokens.map (·.lexeme)) node) (low : limit < node.depth) :
    ofTokens limit tokens = .error (.nestingTooDeep limit) := by
  rcases ofTokens_limit low.le tokens with deep | same
  · exact deep
  · rw [ofTokens_of_derives derived le_rfl] at same
    exact absurd (derives_of_ofTokens same.symm).2 low.not_ge

/-- The depth of a tree is the greatest number of parentheses open at a time in its spelling. -/
theorem isGreatest_balance {tokens : List Token} {node : Expr}
    (derived : Derives (tokens.map (·.lexeme)) node) :
    IsGreatest (balance '' {seen | seen <+: tokens.map (·.lexeme)}) node.depth := by
  constructor
  · -- under the next lower limit the run stops where a parenthesis goes beyond it
    cases depth : node.depth with
    | zero => exact ⟨[], List.nil_prefix, rfl⟩
    | succ limit =>
      have low : limit < node.depth := by omega
      obtain ⟨seen, front, attained⟩ :=
        exists_balance_of_nestingTooDeep (ofTokens_of_lt derived low)
      exact ⟨seen, front, by rw [attained, Nat.cast_succ]⟩
  · rintro _ ⟨seen, front, rfl⟩
    -- under the depth itself the run goes through
    have read := ofTokens_of_derives derived le_rfl
    rw [ofTokens, bind_eq_ok_iff] at read
    obtain ⟨state, ran, -⟩ := read
    exact balance_le_of_run ran front

/-- A text that is read under some limit is read as the same tree under every limit that is no less
than its depth, and refused as nested too deep under every other. Any other error remains under a
greater limit. -/
theorem parse_limit_exact (limit : Nat) (text : String) :
    (∀ node, parse limit text = .ok node →
      IsGreatest (balance '' {seen | seen <+: (Token.scan text).map (·.lexeme)}) node.depth ∧
        ∀ limit', parse limit' text =
          if node.depth ≤ limit' then .ok node else .error (.nestingTooDeep limit')) ∧
    ∀ reason, parse limit text = .error reason → (∀ bound, reason ≠ .nestingTooDeep bound) →
      ∀ limit', limit ≤ limit' → parse limit' text = .error reason := by
  constructor
  · intro node parsed
    obtain ⟨derived, fits⟩ := parse_eq_ok_iff.mp parsed
    refine ⟨isGreatest_balance derived, fun limit' => ?_⟩
    split
    · rename_i enough
      exact parse_eq_ok_iff.mpr ⟨derived, enough⟩
    · rename_i low
      rcases parse_limit (Nat.le_of_not_le low |>.trans fits) text with deep | same
      · exact deep
      · rw [parsed] at same
        exact absurd (parse_eq_ok_iff.mp same.symm).2 low
  · intro reason failed other limit' lower
    rcases parse_limit lower text with deep | same
    · rw [failed] at deep
      cases deep
      exact absurd rfl (other limit)
    · rw [same, failed]

/-- Two parentheses are open at a time in the first text, and the second has an argument missing
inside two. -/
theorem parse_limit_nested :
    (let node : Expr := .call "f" [.call "g" [.literal (.identifier "x")], .literal (.identifier "y")]
    parse 9 "f(g(x), y)" = .ok node ∧
      IsGreatest (balance '' {seen | seen <+: (Token.scan "f(g(x), y)").map (·.lexeme)}) 2 ∧
      parse 2 "f(g(x), y)" = .ok node ∧
      parse 1 "f(g(x), y)" = .error (.nestingTooDeep 1)) ∧
    parse 2 "f(g(,), )" = .error (.emptyArgument 4) ∧
      parse 9 "f(g(,), )" = .error (.emptyArgument 4) := by
  refine ⟨?_, ?_⟩
  · intro node
    have parsed : parse 9 "f(g(x), y)" = .ok node := by decide +kernel
    have depth : node.depth = 2 := by decide +kernel
    obtain ⟨greatest, limits⟩ := (parse_limit_exact 9 "f(g(x), y)").1 node parsed
    simp only [depth] at greatest limits
    exact ⟨parsed, greatest, limits 2, limits 1⟩
  · have failed : parse 2 "f(g(,), )" = .error (.emptyArgument 4) := by decide +kernel
    exact ⟨failed, (parse_limit_exact 2 "f(g(,), )").2 _ failed nofun 9 (by decide)⟩

end StreamPlan.Expr
