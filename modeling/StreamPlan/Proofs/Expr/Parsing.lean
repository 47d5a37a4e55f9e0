import StreamPlan.Proofs.Expr.Grammar

/-! Reading tokens accepts exactly the lists that the grammar derives, within the depth limit, and
gives the tree they derive. -/

set_option autoImplicit false

namespace StreamPlan.Expr

/-! What is read leads to the state. -/

/-- The lexemes that lead to a list of open calls. Each argument read inside a call has a comma
after it, and the calls nested in it stay within the limit. -/
inductive Opens (limit : Nat) : List Lexeme → List OpenCall → Prop where
  | nil : Opens limit [] []
  | cons {seen : List Lexeme} {name : String} {arguments : List (List Lexeme × Expr)}
      {outer : List OpenCall} (opens : Opens limit seen outer)
      (named : Text.isName name = true) (bounded : outer.length < limit)
      (derived : ∀ argument ∈ arguments, Derives argument.1 argument.2)
      (fits : ∀ argument ∈ arguments, outer.length + 1 + argument.2.depth ≤ limit) :
      Opens limit (seen ++ .run name :: .opening :: arguments.flatMap (·.1 ++ [.comma]))
        (⟨name, (arguments.map (·.2)).reverse⟩ :: outer)

theorem Opens.length_le {limit : Nat} {seen : List Lexeme} {calls : List OpenCall}
    (opens : Opens limit seen calls) : calls.length ≤ limit := by
  cases opens with
  | nil => exact Nat.zero_le limit
  | cons _ _ bounded _ _ => exact bounded

inductive Reaches (limit : Nat) : List Lexeme → State → Prop where
  | expectArgument {seen : List Lexeme} {calls : List OpenCall} (opens : Opens limit seen calls) :
      Reaches limit seen (.expectArgument calls)
  | callStart {seen : List Lexeme} {calls : List OpenCall} {name : String}
      (opens : Opens limit seen calls) (named : Text.isName name = true)
      (bounded : calls.length < limit) :
      Reaches limit (seen ++ [.run name, .opening]) (.callStart name calls)
  | afterRun {seen : List Lexeme} {calls : List OpenCall} (opens : Opens limit seen calls)
      (position : Nat) (text : String) :
      Reaches limit (seen ++ [.run text]) (.afterRun position text calls)
  | afterArgument {seen lexemes : List Lexeme} {calls : List OpenCall} {node : Expr}
      (opens : Opens limit seen calls) (derived : Derives lexemes node)
      (fits : calls.length + node.depth ≤ limit) :
      Reaches limit (seen ++ lexemes) (.afterArgument node calls)

section Soundness

variable {limit : Nat} {seen : List Lexeme} {token : Token} {next : State}

theorem Opens.startArgument {calls : List OpenCall} (opens : Opens limit seen calls)
    (stepped : State.startArgument calls token = .ok next) :
    Reaches limit (seen ++ [token.lexeme]) next := by
  unfold State.startArgument at stepped
  split at stepped
  · rename_i text same
    cases stepped
    rw [same]
    exact .afterArgument opens (.quoted text) opens.length_le
  · rename_i text same
    cases stepped
    rw [same]
    exact .afterRun opens token.position text
  · cases stepped
  · cases stepped
  · cases stepped

theorem Opens.endArgument {lexemes : List Lexeme} {node : Expr} {calls : List OpenCall}
    (opens : Opens limit seen calls) (derived : Derives lexemes node)
    (fits : calls.length + node.depth ≤ limit)
    (stepped : State.endArgument node calls token = .ok next) :
    Reaches limit (seen ++ lexemes ++ [token.lexeme]) next := by
  unfold State.endArgument at stepped
  cases opens with
  | nil => split at stepped <;> simp_all
  | @cons seen name arguments outer opens named bounded derivedBefore fitsBefore =>
    -- the argument that ends joins those read before it
    have derivedAll := List.forall_mem_append.mpr
      ⟨derivedBefore, List.forall_mem_singleton (a := (lexemes, node)).mpr derived⟩
    have fitsAll := List.forall_mem_append.mpr
      ⟨fitsBefore, List.forall_mem_singleton (a := (lexemes, node)).mpr fits⟩
    split at stepped
    · rename_i inner rest same lexeme
      cases same
      cases stepped
      have opened := Opens.cons opens named bounded derivedAll fitsAll
      rw [lexeme]
      simpa using Reaches.expectArgument opened
    · rename_i inner rest same lexeme
      cases same
      cases stepped
      have depth := (depth_call_le_iff name).mpr ⟨bounded, List.forall_mem_map.mpr fitsAll⟩
      have reached := Reaches.afterArgument opens (.call named derivedAll) depth
      rw [List.map_append, List.map_singleton, separated_concat] at reached
      rw [lexeme]
      simpa [List.flatMap_map] using reached
    · cases stepped

-- Reading a token keeps the account of what has been read.
theorem Reaches.step {state : State} (reached : Reaches limit seen state)
    (stepped : state.step limit token = .ok next) :
    Reaches limit (seen ++ [token.lexeme]) next := by
  cases reached with
  | expectArgument opens => exact opens.startArgument stepped
  | @callStart seen calls name opens named bounded =>
    simp only [State.step] at stepped
    split at stepped
    · rename_i closing
      cases stepped
      have depth : calls.length + (Expr.call name []).depth ≤ limit :=
        (depth_call_le_iff name).mpr ⟨bounded, by simp⟩
      have derived : Derives [.run name, .opening, .closing] (.call name []) :=
        @Derives.call name [] named (by simp)
      rw [closing]
      simpa using Reaches.afterArgument opens derived depth
    · have opened := @Opens.cons limit seen name [] calls opens named bounded (by simp) (by simp)
      exact opened.startArgument stepped
  | @afterRun seen calls opens position text =>
    simp only [State.step] at stepped
    split at stepped
    · rename_i opening
      split at stepped
      · cases stepped
      · rename_i named
        split at stepped
        · cases stepped
        · rename_i bounded
          cases stepped
          rw [opening]
          simpa using Reaches.callStart opens (by simpa using named) (Nat.lt_of_not_le bounded)
    · exact opens.endArgument (.run text) opens.length_le stepped
  | afterArgument opens derived fits => exact opens.endArgument derived fits stepped

theorem Reaches.run {tokens : List Token} {state : State} (reached : Reaches limit seen state)
    (ran : tokens.foldlM (State.step limit) state = .ok next) :
    Reaches limit (seen ++ tokens.map (·.lexeme)) next := by
  induction tokens generalizing seen state with
  | nil =>
    cases ran
    simpa using reached
  | cons token rest ih =>
    rw [List.foldlM_cons] at ran
    cases stepped : state.step limit token with
    | error reason => simp [stepped, bind, Except.bind] at ran
    | ok middle =>
      rw [stepped] at ran
      simpa using ih (reached.step stepped) ran

theorem reaches_of_run {tokens : List Token} {state : State}
    (ran : tokens.foldlM (State.step limit) (.expectArgument []) = .ok state) :
    Reaches limit (tokens.map (·.lexeme)) state := by
  simpa using Reaches.run (.expectArgument .nil) ran

theorem Reaches.finish {state : State} {position : Nat} {node : Expr}
    (reached : Reaches limit seen state) (finished : state.finish position = .ok node) :
    Derives seen node ∧ node.depth ≤ limit := by
  cases reached with
  | expectArgument opens => cases finished
  | callStart opens named bounded => cases finished
  | afterRun opens position text =>
    cases opens with
    | nil =>
      cases finished
      exact ⟨.run text, Nat.zero_le limit⟩
    | cons opens named bounded derived fits => cases finished
  | afterArgument opens derived fits =>
    cases opens with
    | nil =>
      cases finished
      exact ⟨derived, by simpa using fits⟩
    | cons opens named bounded derived fits => cases finished

theorem derives_of_ofTokens {tokens : List Token} {node : Expr}
    (read : ofTokens limit tokens = .ok node) :
    Derives (tokens.map (·.lexeme)) node ∧ node.depth ≤ limit := by
  unfold ofTokens at read
  cases ran : tokens.foldlM (State.step limit) (.expectArgument []) with
  | error reason => simp [ran, bind, Except.bind] at read
  | ok state =>
    rw [ran] at read
    exact (reaches_of_run ran).finish read

end Soundness

/-! What the grammar derives is read. -/

inductive Awaits : State → List OpenCall → Prop where
  | argument (calls : List OpenCall) : Awaits (.expectArgument calls) calls
  | first (name : String) (calls : List OpenCall) :
    Awaits (.callStart name calls) (⟨name, []⟩ :: calls)

/-- The state has an argument that ends here unless unquoted text turns out to be a name. -/
inductive Holds : State → Expr → List OpenCall → Prop where
  | run (position : Nat) (text : String) (calls : List OpenCall) :
    Holds (.afterRun position text calls) (.literal (.classify text)) calls
  | argument (node : Expr) (calls : List OpenCall) : Holds (.afterArgument node calls) node calls

section Completeness

variable {limit : Nat} {state : State} {token : Token} {calls outer : List OpenCall}

theorem Awaits.step_quoted {text : String} (awaits : Awaits state calls)
    (lexeme : token.lexeme = .quoted text) :
    state.step limit token = .ok (.afterArgument (.literal (.str text)) calls) := by
  cases awaits <;> simp [State.step, State.startArgument, lexeme]

theorem Awaits.step_run {text : String} (awaits : Awaits state calls)
    (lexeme : token.lexeme = .run text) :
    state.step limit token = .ok (.afterRun token.position text calls) := by
  cases awaits <;> simp [State.step, State.startArgument, lexeme]

theorem Holds.step_comma {node : Expr} {inner : OpenCall}
    (holds : Holds state node (inner :: outer)) (lexeme : token.lexeme = .comma) :
    state.step limit token =
      .ok (.expectArgument ({ inner with arguments := node :: inner.arguments } :: outer)) := by
  cases holds <;> simp [State.step, State.endArgument, lexeme]

theorem Holds.step_closing {node : Expr} {inner : OpenCall}
    (holds : Holds state node (inner :: outer)) (lexeme : token.lexeme = .closing) :
    state.step limit token =
      .ok (.afterArgument (.call inner.operation (node :: inner.arguments).reverse) outer) := by
  cases holds <;> simp [State.step, State.endArgument, lexeme]

theorem Holds.finish {node : Expr} (holds : Holds state node []) (position : Nat) :
    state.finish position = .ok node := by
  cases holds <;> rfl

theorem run_cons {next : State} (stepped : state.step limit token = .ok next)
    (rest : List Token) :
    (token :: rest).foldlM (State.step limit) state = rest.foldlM (State.step limit) next := by
  rw [List.foldlM_cons, stepped]
  rfl

theorem run_append {tokens : List Token} {next : State}
    (ran : tokens.foldlM (State.step limit) state = .ok next) (rest : List Token) :
    (tokens ++ rest).foldlM (State.step limit) state = rest.foldlM (State.step limit) next := by
  rw [List.foldlM_append, ran]
  rfl

def ReadsAs (limit : Nat) (lexemes : List Lexeme) (node : Expr) : Prop :=
  ∀ (tokens : List Token) (state : State) (calls : List OpenCall),
    tokens.map (·.lexeme) = lexemes → Awaits state calls → calls.length + node.depth ≤ limit →
    ∃ next, tokens.foldlM (State.step limit) state = .ok next ∧ Holds next node calls

-- Arguments are read in order; the last is held, those before it are stored.
theorem reads_separated {first : List Lexeme × Expr} {arguments : List (List Lexeme × Expr)}
    (reads : ∀ argument ∈ first :: arguments, ReadsAs limit argument.1 argument.2)
    {name : String} {stored : List Expr}
    (fits : ∀ argument ∈ first :: arguments, outer.length + 1 + argument.2.depth ≤ limit)
    (awaits : Awaits state (⟨name, stored⟩ :: outer)) {tokens : List Token}
    (spelled : tokens.map (·.lexeme) = separated ((first :: arguments).map (·.1))) :
    ∃ next last before, tokens.foldlM (State.step limit) state = .ok next ∧
      Holds next last (⟨name, before⟩ :: outer) ∧
      (last :: before).reverse = stored.reverse ++ (first :: arguments).map (·.2) := by
  induction arguments generalizing first state stored tokens with
  | nil =>
    obtain ⟨next, ran, holds⟩ := reads first (by simp) tokens state _ (by simpa using spelled)
      awaits (by simpa using fits first (by simp))
    exact ⟨next, first.2, stored, ran, holds, by simp⟩
  | cons second rest ih =>
    rw [List.map_cons, List.map_cons, separated_cons_cons] at spelled
    obtain ⟨front, comma, after, rfl, spelledFirst, isComma, spelledAfter⟩ :=
      exists_of_map_comma spelled
    obtain ⟨middle, ran, holds⟩ := reads first (by simp) front state _ spelledFirst awaits
      (by simpa using fits first (by simp))
    obtain ⟨next, last, before, ranRest, holdsLast, order⟩ :=
      ih (fun argument member => reads argument (List.mem_cons_of_mem _ member))
        (fun argument member => fits argument (List.mem_cons_of_mem _ member))
        (.argument (⟨name, first.2 :: stored⟩ :: outer)) spelledAfter
    refine ⟨next, last, before, ?_, holdsLast, by simpa using order⟩
    rw [run_append ran, run_cons (holds.step_comma isComma)]
    exact ranRest

-- What the grammar derives is read, by induction on the derivation.
theorem Derives.readsAs {lexemes : List Lexeme} {node : Expr} (derived : Derives lexemes node) :
    ReadsAs limit lexemes node := by
  induction derived with
  | quoted text =>
    intro tokens state calls spelled awaits fits
    obtain ⟨token, rfl, lexeme⟩ := List.map_eq_singleton_iff.mp spelled
    exact ⟨_, run_cons (awaits.step_quoted lexeme) [], .argument _ calls⟩
  | run text =>
    intro tokens state calls spelled awaits fits
    obtain ⟨token, rfl, lexeme⟩ := List.map_eq_singleton_iff.mp spelled
    exact ⟨_, run_cons (awaits.step_run lexeme) [], .run token.position text calls⟩
  | @call name arguments named derived ih =>
    intro tokens state calls spelled awaits fits
    obtain ⟨bounded, inside⟩ := (depth_call_le_iff name).mp fits
    obtain ⟨run, opening, front, closing, rfl, isRun, isOpening, spelledInside, isClosing⟩ :=
      exists_of_map_call spelled
    have opened : (State.afterRun run.position name calls).step limit opening =
        .ok (.callStart name calls) := by
      simp [State.step, isOpening, named, Nat.not_le.mpr bounded]
    rw [run_cons (awaits.step_run isRun), run_cons opened]
    cases arguments with
    | nil =>
      obtain rfl : front = [] := by simpa using spelledInside
      refine ⟨_, run_cons ?_ [], .argument (.call name []) calls⟩
      simp [State.step, isClosing]
    | cons first rest =>
      obtain ⟨next, last, before, ran, holds, order⟩ := reads_separated ih
        (List.forall_mem_map.mp inside) (.first name calls) spelledInside
      refine ⟨_, ?_, .argument _ calls⟩
      rw [run_append ran, run_cons (holds.step_closing isClosing), order]
      rfl

theorem ofTokens_of_derives {tokens : List Token} {node : Expr}
    (derived : Derives (tokens.map (·.lexeme)) node) (fits : node.depth ≤ limit) :
    ofTokens limit tokens = .ok node := by
  obtain ⟨next, ran, holds⟩ :=
    derived.readsAs tokens (.expectArgument []) [] rfl (.argument []) (by simpa using fits)
  unfold ofTokens
  rw [ran]
  exact holds.finish (endPosition tokens)

end Completeness

theorem ofTokens_eq_ok_iff {limit : Nat} {tokens : List Token} {node : Expr} :
    ofTokens limit tokens = .ok node ↔
      Derives (tokens.map (·.lexeme)) node ∧ node.depth ≤ limit :=
  ⟨derives_of_ofTokens, fun ⟨derived, fits⟩ => ofTokens_of_derives derived fits⟩

/-- A list of lexemes spells at most one tree. -/
theorem Derives.functional {lexemes : List Lexeme} {first second : Expr}
    (left : Derives lexemes first) (right : Derives lexemes second) : first = second := by
  -- places do not matter, so the lexemes may be read as tokens at any
  let tokens := lexemes.map (Token.mk 0)
  have spelled : tokens.map (·.lexeme) = lexemes := by simp [tokens, Function.comp_def]
  rw [← spelled] at left right
  have readFirst := ofTokens_of_derives left (Nat.le_max_left first.depth second.depth)
  have readSecond := ofTokens_of_derives right (Nat.le_max_right first.depth second.depth)
  exact Except.ok.inj (readFirst.symm.trans readSecond)

theorem scan_eq_nil_of_isAllBlank {text : String} (blank : Text.isAllBlank text = true) :
    Token.scan text = [] := by
  unfold Text.isAllBlank at blank
  unfold Token.scan
  generalize text.toList = cs at blank
  generalize 0 = position
  induction cs generalizing position with
  | nil => exact Token.scanFrom_nil position
  | cons c rest ih =>
    rw [List.all_cons, Bool.and_eq_true] at blank
    rw [Token.scanFrom_blank blank.1]
    exact ih blank.2 (position + 1)

theorem countP_lexeme (tokens : List Token) (mark : Lexeme) :
    tokens.countP (·.lexeme == mark) = (tokens.map (·.lexeme)).count mark := by
  rw [List.count, List.countP_map]
  rfl

theorem parse_eq_ok_iff {text : String} {limit : Nat} {node : Expr} :
    parse limit text = .ok node ↔
      Derives ((Token.scan text).map (·.lexeme)) node ∧ node.depth ≤ limit := by
  unfold parse
  split
  · rename_i blank
    rw [scan_eq_nil_of_isAllBlank blank]
    constructor
    · intro impossible
      cases impossible
    · rintro ⟨derived, -⟩
      exact absurd rfl derived.ne_nil
  · simp only [countP_lexeme]
    split
    · rename_i unbalanced
      constructor
      · intro impossible
        cases impossible
      · rintro ⟨derived, -⟩
        exact absurd derived.balanced unbalanced
    · exact ofTokens_eq_ok_iff

/-- Parsing accepts exactly the derivable texts within the depth limit and gives the tree they
spell, of which there is only one. -/
theorem parse_exact :
    (∀ (text : String) (limit : Nat) (node : Expr), parse limit text = .ok node ↔
      Derives ((Token.scan text).map (·.lexeme)) node ∧ node.depth ≤ limit) ∧
    ∀ (lexemes : List Lexeme) (first second : Expr),
      Derives lexemes first → Derives lexemes second → first = second :=
  ⟨fun _ _ _ => parse_eq_ok_iff, fun _ _ _ left right => left.functional right⟩

end StreamPlan.Expr
