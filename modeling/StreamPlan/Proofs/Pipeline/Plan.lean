import StreamPlan.Pipeline.Plan
import StreamPlan.Proofs.Aggregation.Json
import StreamPlan.Proofs.Expr.RoundTrip
import StreamPlan.Proofs.Statement.Compile
import StreamPlan.Proofs.Statement.Json

/-! A compiled plan and its text: the depth limit bounds how deep the text nests, and the text is
read back exactly where the reader allows that nesting. -/

set_option autoImplicit false

namespace StreamPlan

open Aggregation (Rule)
open Json (Value)

namespace Plan

def floats (plan : Plan) : List Binary64 := plan.items.flatMap Item.floats

theorem isWritten_toJson (plan : Plan) : plan.toJson.IsWritten := by
  apply Value.isWritten_record
  cases plan.aggregation with
  | none => simp [Item.isWritten_listToJson]
  | some rule => simp [Item.isWritten_listToJson, rule.isWritten_toJson]

-- A body has four levels around it, and the aggregation no more than that.
theorem nesting_toJson_le_iff {plan : Plan} {bound : Nat} :
    plan.toJson.nesting ≤ bound + 4 ↔ ∀ item ∈ plan.items, item.BodyFits bound := by
  rw [← Item.nesting_listToJson_le_iff]
  cases aggregation : plan.aggregation with
  | none => simp [toJson, aggregation, Value.record, Value.nesting, Value.nestingMembers]
  | some rule =>
    have small := rule.nesting_toJson_le
    simp [toJson, aggregation, Value.record, Value.nesting, Value.nestingMembers]
    omega

theorem fields?_toJson (plan : Plan) :
    plan.toJson.fields? ["transformations", "aggregation"] =
      some [some (Item.listToJson plan.items), plan.aggregation.map Rule.toJson] := by
  cases aggregation : plan.aggregation <;>
    simp [toJson, aggregation, Value.record, Value.fields?, Value.uniqueMember?]

theorem nullable?_aggregation (aggregation : Option Rule) :
    ((aggregation.map Rule.toJson).getD .null).nullable? Rule.ofJson? = some aggregation := by
  cases aggregation with
  | none => rfl
  | some rule => exact congrArg (Option.map some) rule.ofJson?_toJson

/-- A plan is read back where its nesting is allowed, and refused elsewhere. -/
theorem ofJson?_toJson {plan : Plan} (readable : ∀ x ∈ plan.floats, Value.ReadsBack x) :
    ofJson? plan.toJson = if plan.toJson.nesting ≤ Value.nestingLimit then some plan else none := by
  have items := @Item.listOfJson?_listToJson plan.items
    (fun item member x isFloat => readable x (List.mem_flatMap.mpr ⟨item, member, isFloat⟩)) 1
  -- the columns are read with the levels around their bodies taken off the limit
  have fits : plan.toJson.nesting ≤ Value.nestingLimit ↔
      ∀ item ∈ plan.items, item.BodyFits (Value.nestingLimit - (1 + 3)) :=
    nesting_toJson_le_iff
  rw [← if_congr fits rfl rfl] at items
  rw [ofJson?, fields?_toJson]
  dsimp only
  rw [items, nullable?_aggregation]
  split <;> rfl

theorem ofJson?_toJson_eq_some_iff {plan : Plan}
    (readable : ∀ x ∈ plan.floats, Value.ReadsBack x) :
    ofJson? plan.toJson = some plan ↔ plan.toJson.nesting ≤ Value.nestingLimit := by
  rw [ofJson?_toJson readable]
  split <;> simp_all

end Plan

namespace Config

theorem compileAll_of_compile {config : Config} {schema : Schema} {plan : Plan}
    (compiled : config.compile schema = .ok plan) :
    Statement.compileAll config.limit config.statements = .ok plan.items := by
  simp only [compile, bind_eq_ok_iff, mapError_eq_ok_iff] at compiled
  obtain ⟨items, columns, aggregation, -, same⟩ := compiled
  cases same
  exact columns

theorem depth_le_of_compile {config : Config} {schema : Schema} {plan : Plan}
    (compiled : config.compile schema = .ok plan) {item : Item} (member : item ∈ plan.items)
    {body : Expr} (isBody : body ∈ item.body?) : body.depth ≤ config.limit := by
  cases item with
  | field name => cases isBody
  | derived name body' =>
    cases isBody
    exact Statement.depth_le_of_compileAll (compileAll_of_compile compiled) member

theorem nesting_le_of_compile {config : Config} {schema : Schema} {plan : Plan}
    (compiled : config.compile schema = .ok plan) :
    plan.toJson.nesting ≤ 3 * config.limit + 6 := by
  apply Plan.nesting_toJson_le_iff.mpr
  intro item member body isBody
  have shallow := depth_le_of_compile compiled member isBody
  have nested := body.nesting_toJson_le
  omega

/-- A plan compiled under the default depth limit is read back from its text, written on one line
or indented, exactly when the nesting of its value is within that of the reader. The depth limit
does not see to it: it allows for half as much again. -/
theorem compiled_readBack_iff {config : Config} {schema : Schema} {plan : Plan}
    (unset : config.depthLimit = none) (compiled : config.compile schema = .ok plan)
    (readable : ∀ x ∈ plan.floats, Value.ReadsBack x) :
    ((Value.read? plan.toJson.compact).bind Plan.ofJson? = some plan ↔
      plan.toJson.nesting ≤ Value.nestingLimit) ∧
    ((Value.read? (plan.toJson.pretty 0)).bind Plan.ofJson? = some plan ↔
      plan.toJson.nesting ≤ Value.nestingLimit) ∧
    plan.toJson.nesting ≤ 3 * Expr.defaultLimit + 6 := by
  have written := plan.isWritten_toJson
  have nested := nesting_le_of_compile compiled
  rw [limit, unset] at nested
  rw [Value.read?_compact written, Value.read?_pretty written, Option.bind_some]
  exact ⟨Plan.ofJson?_toJson_eq_some_iff readable, Plan.ofJson?_toJson_eq_some_iff readable, nested⟩

/-- The plan of one statement with a float in it. -/
theorem floatConfig_readBack :
    let plan : Plan := ⟨[.derived "x" (.call "mult" [.literal (.identifier "size"),
      .literal (.float (.finite false ⟨0x3FF8000000000000, by decide⟩))])], none⟩
    Config.compile ⟨["x: mult(size, 1.5)"], none, none⟩ ⟨[]⟩ = .ok plan ∧
      (Value.read? plan.toJson.compact).bind Plan.ofJson? = some plan := by
  intro plan
  have compiled : Config.compile ⟨["x: mult(size, 1.5)"], none, none⟩ ⟨[]⟩ = .ok plan := by
    decide +kernel
  have readable : ∀ x ∈ plan.floats, Value.ReadsBack x := by
    intro x isFloat
    have same : x = .finite false ⟨0x3FF8000000000000, by decide⟩ := by
      simpa [plan, Plan.floats, Item.floats, Item.body?, Expr.floats, Expr.floatsOf,
        Literal.float?] using isFloat
    rw [same, Value.ReadsBack]
    decide +kernel
  have allowed : plan.toJson.nesting ≤ Value.nestingLimit := by decide +kernel
  exact ⟨compiled, (compiled_readBack_iff rfl compiled readable).1.mpr allowed⟩

/-- Under a depth limit of forty every compiled plan is read back. -/
theorem readBack_of_limit_le {config : Config} {schema : Schema} {plan : Plan}
    (low : config.limit ≤ 40) (compiled : config.compile schema = .ok plan)
    (readable : ∀ x ∈ plan.floats, Value.ReadsBack x) :
    (Value.read? plan.toJson.compact).bind Plan.ofJson? = some plan := by
  have nested := nesting_le_of_compile compiled
  have allowed : plan.toJson.nesting ≤ Value.nestingLimit := by
    have : Value.nestingLimit = 127 := rfl
    omega
  rw [Value.read?_compact plan.isWritten_toJson, Option.bind_some]
  exact (Plan.ofJson?_toJson_eq_some_iff readable).mpr allowed

def nestedCalls : Nat → Expr
  | 0 => .literal (.int 1)
  | depth + 1 => .call "f" [nestedCalls depth]

theorem spelled_nestedCalls (depth : Nat) : (nestedCalls depth).Spelled := by
  induction depth with
  | zero =>
    have run := (@Expr.isPlainText_of_isName "1" (by decide +kernel)).isRun
    have classified : Literal.classify "1" = .int 1 := by decide +kernel
    have spelled := Expr.Spelled.run run
    rwa [classified] at spelled
  | succ depth ih => exact .call (by decide +kernel) (by simpa using ih)

theorem places_nestedCalls (depth : Nat) (after : List Char) :
    (nestedCalls depth).places after = [] := by
  induction depth generalizing after with
  | zero => rfl
  | succ depth ih => simp [nestedCalls, Expr.places, Expr.placesEach, ih]

theorem depth_nestedCalls (depth : Nat) : (nestedCalls depth).depth = depth := by
  induction depth with
  | zero => rfl
  | succ depth ih => simp [nestedCalls, Expr.depth, Expr.depthMax, ih]

theorem floats_nestedCalls (depth : Nat) : (nestedCalls depth).floats = [] := by
  induction depth with
  | zero => rfl
  | succ depth ih => simp [nestedCalls, Expr.floats, Expr.floatsOf, ih]

theorem nesting_nestedCalls (depth : Nat) :
    (nestedCalls depth).toJson.nesting = 3 * depth + 2 := by
  induction depth with
  | zero => rfl
  | succ depth ih =>
    simp [nestedCalls, Expr.nesting_call, Value.nestingItems, ih]
    omega

def nestedConfig (depth : Nat) : Config :=
  ⟨["x: " ++ (nestedCalls depth).render], none, none⟩

def nestedPlan (depth : Nat) : Plan := ⟨[.derived "x" (nestedCalls depth)], none⟩

theorem compile_nestedConfig {depth : Nat} (fits : depth ≤ Expr.defaultLimit) (schema : Schema) :
    (nestedConfig depth).compile schema = .ok (nestedPlan depth) := by
  obtain ⟨filled, trimmed⟩ := (spelled_nestedCalls depth).isTrimmed_render
  have parsed : Expr.parse Expr.defaultLimit (nestedCalls depth).render =
      .ok (nestedCalls depth) := by
    apply Expr.parse_render_of_faithful (spelled_nestedCalls depth)
    · simp [Expr.Faithful, places_nestedCalls]
    · rwa [depth_nestedCalls]
  have name := (@Expr.isPlainText_of_isName "x" (by decide +kernel)).isRun
  have column := Statement.compile_derived name.nonempty name.trimmed (by decide) filled trimmed
    parsed
  rw [show "x" ++ ": " = "x: " from rfl] at column
  simp [compile, nestedConfig, limit, Statement.compileAll, column, nestedPlan, bind, Except.bind,
    pure, Except.pure, Except.mapError, compileAggregation]

theorem floats_nestedPlan (depth : Nat) : (nestedPlan depth).floats = [] := by
  simp [Plan.floats, nestedPlan, Item.floats, Item.body?, floats_nestedCalls]

theorem allowed_nestedPlan_iff {depth : Nat} :
    (nestedPlan depth).toJson.nesting ≤ Value.nestingLimit ↔ depth ≤ 40 := by
  have fits : (nestedPlan depth).toJson.nesting ≤ 123 + 4 ↔ 3 * depth + 2 ≤ 123 := by
    rw [Plan.nesting_toJson_le_iff, ← nesting_nestedCalls]
    simp [nestedPlan, Item.BodyFits, Item.body?]
  rw [show Value.nestingLimit = 123 + 4 from rfl, fits]
  omega

/-- Forty-one calls are within the default limit and too many for the reader. -/
theorem nestedConfig_not_readBack :
    (nestedConfig 41).depthLimit = none ∧
      (nestedConfig 41).compile ⟨[]⟩ = .ok (nestedPlan 41) ∧
      (∀ x ∈ (nestedPlan 41).floats, Value.ReadsBack x) ∧
      (Value.read? (nestedPlan 41).toJson.compact).bind Plan.ofJson? = none ∧
      (Value.read? ((nestedPlan 41).toJson.pretty 0)).bind Plan.ofJson? = none := by
  have readable : ∀ x ∈ (nestedPlan 41).floats, Value.ReadsBack x := by
    simp [floats_nestedPlan]
  have deep : ¬ (nestedPlan 41).toJson.nesting ≤ Value.nestingLimit :=
    mt allowed_nestedPlan_iff.mp (by decide)
  have refused := Plan.ofJson?_toJson readable
  rw [if_neg deep] at refused
  have written := (nestedPlan 41).isWritten_toJson
  rw [Value.read?_compact written, Value.read?_pretty written, Option.bind_some]
  exact ⟨rfl, compile_nestedConfig (by decide) ⟨[]⟩, readable, refused, refused⟩

end Config
end StreamPlan
