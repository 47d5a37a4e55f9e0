import StreamPlan.Statement.Json
import StreamPlan.Proofs.Expr.Json

set_option autoImplicit false

namespace StreamPlan.Item

open Json (Value)

def body? : Item → Option Expr
  | .field _ => none
  | .derived _ body => some body

def floats (item : Item) : List Binary64 := item.body?.toList.flatMap Expr.floats

def BodyFits (bound : Nat) (item : Item) : Prop :=
  ∀ body ∈ item.body?, body.toJson.nesting ≤ bound

instance (bound : Nat) : DecidablePred (BodyFits bound) := fun item =>
  match item with
  | .field name => .isTrue (by simp [BodyFits, body?])
  | .derived name body =>
    if fits : body.toJson.nesting ≤ bound then .isTrue (by simpa [BodyFits, body?] using fits)
    else .isFalse (by simpa [BodyFits, body?] using fits)

theorem isWritten_toJson (item : Item) : item.toJson.IsWritten := by
  cases item with
  | field name => exact Value.isWritten_tagged _ (.text name)
  | derived name body =>
    apply Value.isWritten_tagged
    apply Value.isWritten_record
    simp [body.isWritten_toJson, Value.IsWritten.text]

/-- A column with a body takes two levels around it. -/
theorem nesting_toJson_le_iff {item : Item} {bound : Nat} :
    item.toJson.nesting ≤ bound + 2 ↔ item.BodyFits bound := by
  cases item with
  | field name => simp [toJson, BodyFits, body?]
  | derived name body =>
    simp [toJson, BodyFits, body?, Value.record, Value.nesting, Value.nestingMembers]

theorem ofJson?_toJson {item : Item} (readable : ∀ x ∈ item.floats, Value.ReadsBack x)
    (bound : Nat) :
    ofJson? bound item.toJson = if item.BodyFits bound then some item else none := by
  cases item with
  | field name =>
    rw [if_pos (by simp [BodyFits, body?])]
    rfl
  | derived name body =>
    have read := @Expr.ofJson?_toJson body (by simpa [floats, body?] using readable) bound
    by_cases fits : body.toJson.nesting ≤ bound
    · rw [if_pos fits] at read
      rw [if_pos (by simpa [BodyFits, body?] using fits)]
      simp [toJson, ofJson?, Value.record, Value.fields?, Value.uniqueMember?, Value.string?,
        Value.text, read]
    · rw [if_neg fits] at read
      rw [if_neg (by simpa [BodyFits, body?] using fits)]
      simp [toJson, ofJson?, Value.record, Value.fields?, Value.uniqueMember?, Value.string?,
        Value.text, read]

theorem isWritten_listToJson (items : List Item) : (listToJson items).IsWritten :=
  Value.isWritten_array_map fun item _ => item.isWritten_toJson

theorem nesting_listToJson_le_iff {items : List Item} {bound : Nat} :
    (listToJson items).nesting ≤ bound + 3 ↔ ∀ item ∈ items, item.BodyFits bound := by
  have list (nesting : Nat) : nesting + 1 ≤ bound + 3 ↔ nesting ≤ bound + 2 := by omega
  rw [listToJson, Value.nesting, list, Value.nestingItems_le_iff, List.forall_mem_map]
  simp only [nesting_toJson_le_iff]

theorem listOfJson?_listToJson {items : List Item}
    (readable : ∀ item ∈ items, ∀ x ∈ item.floats, Value.ReadsBack x) (outside : Nat) :
    listOfJson? outside (listToJson items) =
      if ∀ item ∈ items, item.BodyFits (Value.nestingLimit - (outside + 3)) then some items
      else none := by
  have reads := Value.mapM_map_eq_ite fun item member =>
    ofJson?_toJson (readable item member) (Value.nestingLimit - (outside + 3))
  rw [listOfJson?, listToJson, Value.list?, Value.items?, Option.bind_some]
  exact reads

end StreamPlan.Item
