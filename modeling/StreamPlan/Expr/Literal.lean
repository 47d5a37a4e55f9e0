import StreamPlan.Binary64.Shortest
import StreamPlan.Decimal.Numeral
import StreamPlan.Text.Trim

set_option autoImplicit false

namespace StreamPlan

inductive Literal where
  | bool (value : Bool)
  | int (value : Int64)
  | float (value : Binary64)
  | str (text : String)
  | identifier (name : String)
  deriving DecidableEq, Repr

namespace Literal

/-- Floats have the layout of `0.0001` to below `1e16` without exponent, always with a point or
an exponent, so that none reads back as an integer. -/
def layout : Decimal.Layout :=
  { tie := .upward, leastPoint := -3, greatestPoint := 16, plusSign := false }

def floatText : Binary64 → String
  | .infinite true => "-inf"
  | .infinite false => "inf"
  | .nan => "NaN"
  | x => (x.text? layout).getD ""

def int64? (cs : List Char) : Option Int64 := (Numeral.integer? cs).bind Numeral.int64?

def finite? (cs : List Char) : Option Binary64 :=
  (Numeral.ofChars? cs).bind fun numeral =>
    if numeral.toBinary64.isFinite then some numeral.toBinary64 else none

-- The number that a text is. Integers beyond 64 bits are floats.
def number? (cs : List Char) : Option Literal :=
  match int64? cs with
  | some value => some (.int value)
  | none => (finite? cs).map .float

/-- The literal that unquoted text stands for: a truth value, an integer, a float, and otherwise
an identifier. Numbers beyond the floats are identifiers. -/
def classify (text : String) : Literal :=
  let trimmed := Text.trim text
  if trimmed = "True" then .bool true
  else if trimmed = "False" then .bool false
  else (number? trimmed.toList).getD (.identifier trimmed)

def identifier? : Literal → Option String
  | .identifier name => some name
  | _ => none

def escape (c : Char) : List Char :=
  if c = '\\' then ['\\', '\\'] else if c = '\'' then ['\\', '\''] else [c]

def render : Literal → String
  | .bool true => "True"
  | .bool false => "False"
  | .int value => Decimal.intText value.toInt
  | .float value => floatText value
  | .str text => String.ofList ('\'' :: (text.toList.flatMap escape ++ ['\'']))
  | .identifier name => name

def sameValue : Literal → Literal → Bool
  | .float x, .float y => x.sameNumber y
  | first, second => first == second

end Literal
end StreamPlan
