import StreamPlan.Json.Token

set_option autoImplicit false

namespace StreamPlan.Json.Value

mutual

def tokens : Value → List Token
  | .null => [.null]
  | .bool value => [.bool value]
  | .number text => [.number text]
  | .string text => [.string text]
  | .array [] => [.openBracket, .closeBracket]
  | .array (item :: rest) => .openBracket :: (tokens item ++ itemTokens rest)
  | .object [] => [.openBrace, .closeBrace]
  | .object ((name, value) :: rest) =>
    .openBrace :: .string name :: .colon :: (tokens value ++ memberTokens rest)
termination_by structural value => value

/-- The items after the first, each with the comma before it, and the closing bracket. -/
def itemTokens : List Value → List Token
  | [] => [.closeBracket]
  | item :: rest => .comma :: (tokens item ++ itemTokens rest)
termination_by structural items => items

def memberTokens : List (Text × Value) → List Token
  | [] => [.closeBrace]
  | (name, value) :: rest =>
    .comma :: .string name :: .colon :: (tokens value ++ memberTokens rest)
termination_by structural members => members

end

def compact (value : Value) : String := String.ofList (value.tokens.flatMap Token.chars)

def lineBreak (level : Nat) : String := "\n" ++ String.ofList (List.replicate (2 * level) ' ')

def memberName (name : Text) : String := String.ofList (Token.string name).chars ++ ": "

mutual

-- The value with each item and member on a line of its own; `level` is that of the line on which
-- the value begins. Empty arrays and objects stay on one line.
def pretty (level : Nat) : Value → String
  | .array [] => "[]"
  | .array (item :: rest) =>
    "[" ++ lineBreak (level + 1) ++ pretty (level + 1) item ++ prettyItems level rest ++ "]"
  | .object [] => "\x7b\x7d"
  | .object ((name, value) :: rest) =>
    "\x7b" ++ lineBreak (level + 1) ++ memberName name ++
      pretty (level + 1) value ++ prettyMembers level rest ++ "\x7d"
  | value => compact value
termination_by structural value => value

/-- The items after the first, and the line break before the closing bracket. -/
def prettyItems (level : Nat) : List Value → String
  | [] => lineBreak level
  | item :: rest =>
    "," ++ lineBreak (level + 1) ++ pretty (level + 1) item ++ prettyItems level rest
termination_by structural items => items

def prettyMembers (level : Nat) : List (Text × Value) → String
  | [] => lineBreak level
  | (name, value) :: rest =>
    "," ++ lineBreak (level + 1) ++ memberName name ++
      pretty (level + 1) value ++ prettyMembers level rest
termination_by structural members => members

end

end StreamPlan.Json.Value
