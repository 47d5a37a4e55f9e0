/-! Sets of names in code point order: the form in which names are collected, compared and
shown. -/

set_option autoImplicit false

namespace StreamPlan.Names

def dropRepeats : List String → List String
  | first :: second :: rest =>
    if first = second then dropRepeats (second :: rest) else first :: dropRepeats (second :: rest)
  | names => names

def ofList (names : List String) : List String :=
  dropRepeats (names.mergeSort fun a b => decide (a ≤ b))

/-- The names that occur in exactly one of two lists, in ascending order. -/
def difference (first second : List String) : List String :=
  ofList (first.filter (!second.contains ·) ++ second.filter (!first.contains ·))

def render (names : List String) : String :=
  "\x7b" ++ ", ".intercalate (names.map fun name => "'" ++ name ++ "'") ++ "\x7d"

end StreamPlan.Names
