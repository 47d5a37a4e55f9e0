import StreamPlan.Json.Number
import StreamPlan.Json.Reader

/-! Reading domain values out of JSON values. A record is an object, or an array of its fields in
order; an alternative is an object with one member, or a string when it has no content. -/

set_option autoImplicit false

namespace StreamPlan.Json.Value

-- The greatest nesting of a value that is kept; ignored parts of a document have no limit.
def nestingLimit : Nat := 127

def string? : Value → Option String
  | .string text => text
  | _ => none

def bool? : Value → Option Bool
  | .bool value => some value
  | _ => none

def items? : Value → Option (List Value)
  | .array items => some items
  | _ => none

def integer? : Value → Option Int
  | .number text => Number.integer? text
  | _ => none

def natBelow? (bound : Nat) (value : Value) : Option Nat :=
  value.integer?.bind fun n => if 0 ≤ n ∧ n < bound then some n.toNat else none

def int64? (value : Value) : Option Int64 := value.integer?.bind Numeral.int64?

def binary64? : Value → Option Binary64
  | .number text => Number.binary64? text
  | _ => none

def list? {α : Type} (item? : Value → Option α) (value : Value) : Option (List α) :=
  value.items?.bind (List.mapM item?)

def nullable? {α : Type} (read? : Value → Option α) : Value → Option (Option α)
  | .null => some none
  | value => (read? value).map some

/-- The value of a member, which must not be named twice. -/
def uniqueMember? (members : List (String × Value)) (name : String) : Option (Option Value) :=
  match members.filter (·.1 == name) with
  | [] => some none
  | [(_, value)] => some (some value)
  | _ => none

-- The values of a record's fields, in the order of the names given; a field may be missing. Members
-- with other names are ignored. All names must be text.
def fields? (names : List String) : Value → Option (List (Option Value))
  | .object members => do
    let members ← members.mapM fun (name, value) => name.map (·, value)
    names.mapM (uniqueMember? members)
  | .array items =>
    if items.length ≤ names.length then
      some (items.map some ++ List.replicate (names.length - items.length) none)
    else none
  | _ => none

/-- The tag of an alternative and its content, which a plain string does not have. -/
def alternative? : Value → Option (String × Option Value)
  | .string (some tag) => some (tag, none)
  | .object [(some tag, content)] => some (tag, some content)
  | _ => none

def unitTag? (value : Value) : Option String :=
  match value.alternative? with
  | some (tag, none) => some tag
  | some (tag, some .null) => some tag
  | _ => none

end StreamPlan.Json.Value
