import StreamPlan.Expr.Basic
import StreamPlan.Expr.Error
import StreamPlan.Expr.Token

/-! Tokens to expression trees. Tokens are read one by one from the left; the calls still open are
kept beside the state, and their number is bounded by the depth limit. -/

set_option autoImplicit false

namespace StreamPlan.Expr

/-- A call whose arguments are being read, the latest first. -/
structure OpenCall where
  operation : String
  arguments : List Expr

/-- What has been read, and so what may come next. -/
inductive State where
  -- An argument must follow.
  | expectArgument (calls : List OpenCall)
  -- After the opening parenthesis of a call: an argument or the closing parenthesis.
  | callStart (operation : String) (calls : List OpenCall)
  -- After unquoted text: an opening parenthesis makes it the name of a call, anything else a
  -- literal.
  | afterRun (position : Nat) (text : String) (calls : List OpenCall)
  -- After an argument: a comma or closing parenthesis of the innermost call, or the end.
  | afterArgument (node : Expr) (calls : List OpenCall)

namespace State

def unexpected (token : Token) : ExprError :=
  .unexpectedToken token.position token.lexeme.render

def startArgument (calls : List OpenCall) (token : Token) : Except ExprError State :=
  match token.lexeme with
  | .quoted text => .ok (.afterArgument (.literal (.str text)) calls)
  | .run text => .ok (.afterRun token.position text calls)
  | .opening => .error (unexpected token)
  | .comma | .closing => .error (.emptyArgument token.position)

def endArgument (node : Expr) (calls : List OpenCall) (token : Token) : Except ExprError State :=
  match calls, token.lexeme with
  | inner :: outer, .comma =>
    .ok (.expectArgument ({ inner with arguments := node :: inner.arguments } :: outer))
  | inner :: outer, .closing =>
    .ok (.afterArgument (.call inner.operation (node :: inner.arguments).reverse) outer)
  | _, _ => .error (unexpected token)

def step (limit : Nat) (state : State) (token : Token) : Except ExprError State :=
  match state with
  | .expectArgument calls => startArgument calls token
  | .callStart operation calls =>
    match token.lexeme with
    | .closing => .ok (.afterArgument (.call operation []) calls)
    | _ => startArgument (⟨operation, []⟩ :: calls) token
  | .afterRun position text calls =>
    match token.lexeme with
    | .opening =>
      if !Text.isName text then .error (.invalidFunctionName position text)
      else if limit ≤ calls.length then .error (.nestingTooDeep limit)
      else .ok (.callStart text calls)
    | _ => endArgument (.literal (.classify text)) calls token
  | .afterArgument node calls => endArgument node calls token

/-- The expression, if the text may end here; `position` is the place after the last token. -/
def finish (position : Nat) : State → Except ExprError Expr
  | .expectArgument _ | .callStart _ _ => .error (.emptyArgument position)
  | .afterRun _ text [] => .ok (.literal (.classify text))
  | .afterArgument node [] => .ok node
  | .afterRun _ _ (_ :: _) | .afterArgument _ (_ :: _) => .error (.unexpectedEnd position)

end State

-- The place after the last token, as far as its shown form reaches.
def endPosition (tokens : List Token) : Nat :=
  match tokens.getLast? with
  | some token => token.position + token.lexeme.render.length
  | none => 0

def ofTokens (limit : Nat) (tokens : List Token) : Except ExprError Expr := do
  let state ← tokens.foldlM (State.step limit) (.expectArgument [])
  state.finish (endPosition tokens)

def defaultLimit : Nat := 64

-- The tree of an expression's text. Parentheses outside strings are counted before anything else is
-- looked at.
def parse (limit : Nat) (text : String) : Except ExprError Expr :=
  if Text.isAllBlank text then .error .emptyExpression
  else
    let tokens := Token.scan text
    let opening := tokens.countP (·.lexeme == .opening)
    let closing := tokens.countP (·.lexeme == .closing)
    if opening ≠ closing then .error (.unbalancedParentheses opening closing)
    else ofTokens limit tokens

def read (limit : Nat) (text : String) : Except InvalidExpr Expr :=
  (parse limit text).mapError (⟨text, ·⟩)

end StreamPlan.Expr
