import StreamPlan.Schema.Basic

/-! Data-structure documents: an object that gives each field name an index and a type. The order
of the members does not matter, the schema follows the indices. -/

set_option autoImplicit false

namespace StreamPlan.Schema

open Json (Value)

structure Entry where
  index : Nat
  type : FieldType
  deriving DecidableEq, Repr

def entryOfJson? (value : Value) : Option Entry :=
  match value.fields? ["index", "type"] with
  | some [some index, some type] => do
    some ⟨← index.natBelow? UInt32.size, ← FieldType.ofJson? type⟩
  | _ => none

/-- Of the members with the same name the last. -/
def lastOfEach {α : Type} : List (String × α) → List (String × α)
  | [] => []
  | member :: rest =>
    if rest.any (·.1 == member.1) then lastOfEach rest else member :: lastOfEach rest

-- The entries of a document, one for each name. All members must be well formed, also those that
-- are replaced by a later one.
def entries? : Value → Option (List (String × Entry))
  | .object members => do
    let members ← members.mapM fun (name, value) => do some (← name, ← entryOfJson? value)
    some (lastOfEach members)
  | _ => none

/-- A field in its place: the index, and the field with its type. -/
abbrev Placed := Nat × Field

def insertByIndex (new : Placed) : List Placed → List Placed
  | [] => [new]
  | head :: rest =>
    if new.1 < head.1 then new :: head :: rest else head :: insertByIndex new rest

-- Adds an entry to those placed before. The two names of a collision are shown in order.
def place (placed : List Placed) (entry : String × Entry) : Except SchemaError (List Placed) :=
  let (name, entry) := entry
  match placed.find? (·.1 == entry.index) with
  | some (_, other) =>
    if other.name < name then .error (.duplicateIndex entry.index other.name name)
    else .error (.duplicateIndex entry.index name other.name)
  | none => .ok (insertByIndex (entry.index, ⟨name, entry.type⟩) placed)

/-- The schema of the entries, visited in the order of the list. -/
def ofEntries (entries : List (String × Entry)) : Except SchemaError Schema := do
  let placed ← entries.foldlM place []
  ofFields (placed.map (·.2))

def ofDocument (text : String) : Except SchemaError Schema :=
  match (Value.read? text).bind entries? with
  | some entries => ofEntries entries
  | none => .error .invalidDocument

end StreamPlan.Schema
