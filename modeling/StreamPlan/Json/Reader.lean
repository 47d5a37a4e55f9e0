import StreamPlan.Json.Token

/-! JSON text to values. Tokens are read one by one; the arrays and objects still open are kept
beside the state, so that nesting has no limit here. -/

set_option autoImplicit false

namespace StreamPlan.Json

/-- An open array or object with what it holds already, the latest first, and for an object the
name whose value comes next. -/
inductive Frame where
  | array (items : List Value)
  | object (members : List (Text × Value)) (name : Text)

/-- What has been read, and so what may come next. -/
inductive State where
  -- A value must follow.
  | expectValue (frames : List Frame)
  -- After an opening bracket: a value or the closing bracket.
  | arrayStart (frames : List Frame)
  -- After an opening brace: a name or the closing brace.
  | objectStart (frames : List Frame)
  -- After a comma in an object: a name.
  | expectName (members : List (Text × Value)) (frames : List Frame)
  -- After a name: a colon.
  | expectColon (members : List (Text × Value)) (name : Text) (frames : List Frame)
  -- After a value: a comma or closing mark of the innermost frame, or the end.
  | done (value : Value) (frames : List Frame)

namespace State

def start (frames : List Frame) : Token → Option State
  | .openBracket => some (.arrayStart frames)
  | .openBrace => some (.objectStart frames)
  | .null => some (.done .null frames)
  | .bool value => some (.done (.bool value) frames)
  | .number text => some (.done (.number text) frames)
  | .string text => some (.done (.string text) frames)
  | _ => none

def step : State → Token → Option State
  | .expectValue frames, token => start frames token
  | .arrayStart frames, .closeBracket => some (.done (.array []) frames)
  | .arrayStart frames, token => start (.array [] :: frames) token
  | .objectStart frames, .closeBrace => some (.done (.object []) frames)
  | .objectStart frames, .string name => some (.expectColon [] name frames)
  | .expectName members frames, .string name => some (.expectColon members name frames)
  | .expectColon members name frames, .colon => some (.expectValue (.object members name :: frames))
  | .done value (.array items :: frames), .comma =>
    some (.expectValue (.array (value :: items) :: frames))
  | .done value (.array items :: frames), .closeBracket =>
    some (.done (.array (value :: items).reverse) frames)
  | .done value (.object members name :: frames), .comma =>
    some (.expectName ((name, value) :: members) frames)
  | .done value (.object members name :: frames), .closeBrace =>
    some (.done (.object ((name, value) :: members).reverse) frames)
  | _, _ => none

end State

def Value.ofTokens? (tokens : List Token) : Option Value :=
  match tokens.foldlM State.step (.expectValue []) with
  | some (.done value []) => some value
  | _ => none

def Value.read? (text : String) : Option Value :=
  (Token.scan [] text.toList).bind ofTokens?

end StreamPlan.Json
