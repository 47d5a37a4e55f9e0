/-! JSON values as documents hold them: numbers keep their text, objects keep the order of their
members and repeated names. -/

set_option autoImplicit false

namespace StreamPlan.Json

/-- A string of a document. It is `none` when an escape leaves one half of a surrogate pair
alone: such a string is well formed as JSON and denotes no text. -/
abbrev Text := Option String

inductive Value where
  | null
  | bool (value : Bool)
  | number (text : String)
  | string (text : Text)
  | array (items : List Value)
  | object (members : List (Text × Value))
  deriving Repr

namespace Value

def text (s : String) : Value := .string (some s)

def record (members : List (String × Value)) : Value :=
  .object (members.map fun (name, value) => (some name, value))

def tagged (tag : String) (content : Value) : Value := record [(tag, content)]

def nat (n : Nat) : Value := .number (String.ofList (Nat.toDigits 10 n))

mutual

/-- The greatest number of arrays and objects around any part of the value. -/
def nesting : Value → Nat
  | .array items => nestingItems items + 1
  | .object members => nestingMembers members + 1
  | _ => 0
termination_by structural value => value

def nestingItems : List Value → Nat
  | [] => 0
  | item :: rest => max (nesting item) (nestingItems rest)
termination_by structural items => items

def nestingMembers : List (Text × Value) → Nat
  | [] => 0
  | (_, value) :: rest => max (nesting value) (nestingMembers rest)
termination_by structural members => members

end

end Value
end StreamPlan.Json
