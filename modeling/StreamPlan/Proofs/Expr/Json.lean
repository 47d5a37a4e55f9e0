import StreamPlan.Expr.Json
import StreamPlan.Proofs.Expr.Grammar
import StreamPlan.Proofs.Json.Decode

/-! Expressions are read back from their JSON values exactly within the nesting that the reader is
given, as long as each of their floats is. -/

set_option autoImplicit false

namespace StreamPlan

open Json (Value)

namespace Literal

def float? : Literal → Option Binary64
  | .float x => some x
  | _ => none

theorem isWritten_toJson (value : Literal) : value.toJson.IsWritten := by
  cases value with
  | bool value => exact Value.isWritten_tagged _ (.bool value)
  | int value => exact Value.isWritten_tagged _ (Value.isWritten_integer _)
  | float value => exact Value.isWritten_tagged _ (Value.isWritten_binary64 value)
  | str text => exact Value.isWritten_tagged _ (.text text)
  | identifier name => exact Value.isWritten_tagged _ (.text name)

@[simp] theorem nesting_toJson (value : Literal) : value.toJson.nesting = 1 := by
  cases value <;> simp [toJson, Value.nesting, Value.integer]

theorem ofJson?_toJson {value : Literal} (readable : ∀ x ∈ value.float?, Value.ReadsBack x) :
    ofJson? value.toJson = some value := by
  cases value with
  | bool value => rfl
  | int value => simp [toJson, ofJson?, Value.int64?_integer]
  | float value =>
    have back : (Value.binary64 value).binary64? = some value := readable value rfl
    simp [toJson, ofJson?, back]
  | str text => rfl
  | identifier name => rfl

end Literal
namespace Expr

mutual

def floats : Expr → List Binary64
  | .literal value => value.float?.toList
  | .call _ arguments => floatsOf arguments
termination_by structural node => node

def floatsOf : List Expr → List Binary64
  | [] => []
  | node :: rest => floats node ++ floatsOf rest
termination_by structural nodes => nodes

end

theorem floatsOf_eq_flatMap (nodes : List Expr) : floatsOf nodes = nodes.flatMap floats := by
  induction nodes with
  | nil => rfl
  | cons node rest ih => rw [floatsOf, ih, List.flatMap_cons]

theorem toJsons_eq_map (nodes : List Expr) : toJsons nodes = nodes.map toJson := by
  induction nodes with
  | nil => rfl
  | cons node rest ih => rw [toJsons, ih, List.map_cons]

theorem toJson_call (operation : String) (arguments : List Expr) :
    (Expr.call operation arguments).toJson = .tagged "Call" (.record
      [("operation", .text operation), ("children", .array (arguments.map toJson))]) := by
  rw [toJson, toJsons_eq_map]

theorem isWritten_toJson (node : Expr) : node.toJson.IsWritten := by
  induction node with
  | literal value => exact Value.isWritten_tagged _ value.isWritten_toJson
  | call operation arguments ih =>
    rw [toJson_call]
    apply Value.isWritten_tagged
    apply Value.isWritten_record
    have children : (Value.array (arguments.map toJson)).IsWritten :=
      Value.isWritten_array_map ih
    simp [children, Value.IsWritten.text]

theorem nesting_literal (value : Literal) : (Expr.literal value).toJson.nesting = 2 := by
  simp [toJson]

/-- A call takes three levels and those of its arguments. -/
theorem nesting_call (operation : String) (arguments : List Expr) :
    (Expr.call operation arguments).toJson.nesting =
      Value.nestingItems (arguments.map toJson) + 3 := by
  simp [toJson_call, Value.record, Value.nesting, Value.nestingMembers]

theorem nesting_call_le_iff (operation : String) {arguments : List Expr} {bound : Nat} :
    (Expr.call operation arguments).toJson.nesting ≤ bound + 3 ↔
      ∀ argument ∈ arguments, argument.toJson.nesting ≤ bound := by
  rw [nesting_call, Nat.add_le_add_iff_right, Value.nestingItems_le_iff, List.forall_mem_map]

mutual

def nesting : Expr → Nat
  | .literal _ => 2
  | .call _ arguments => 3 + nestingMax arguments
termination_by structural node => node

def nestingMax : List Expr → Nat
  | [] => 0
  | node :: rest => max (nesting node) (nestingMax rest)
termination_by structural nodes => nodes

end

theorem nestingItems_toJson {nodes : List Expr}
    (same : ∀ node ∈ nodes, node.toJson.nesting = node.nesting) :
    Value.nestingItems (nodes.map toJson) = nestingMax nodes := by
  induction nodes with
  | nil => rfl
  | cons first rest ih =>
    obtain ⟨sameFirst, sameRest⟩ := List.forall_mem_cons.mp same
    rw [List.map_cons, Value.nestingItems, nestingMax, sameFirst, ih sameRest]

theorem nesting_toJson (node : Expr) : node.toJson.nesting = node.nesting := by
  induction node with
  | literal value => rw [nesting_literal, nesting]
  | call operation arguments ih => rw [nesting_call, nesting, nestingItems_toJson ih, Nat.add_comm]

/-- The depth limit of calls bounds the nesting of values. -/
theorem nesting_toJson_le (node : Expr) : node.toJson.nesting ≤ 3 * node.depth + 2 := by
  induction node with
  | literal value => rw [nesting_literal, depth]
  | call operation arguments ih =>
    have inside : ∀ argument ∈ arguments,
        argument.toJson.nesting ≤ 3 * depthMax arguments + 2 := by
      intro argument member
      have shallow := depthMax_le_iff.mp (Nat.le_refl (depthMax arguments)) argument member
      have nested := ih argument member
      omega
    have nested := (nesting_call_le_iff operation).mpr inside
    rw [depth]
    omega

theorem ofJson?_literal (nesting : Nat) (value : Literal) :
    ofJson? (nesting + 2) (Expr.literal value).toJson =
      (Literal.ofJson? value.toJson).map .literal := by
  simp [ofJson?, toJson]

theorem ofJson?_call (nesting : Nat) (operation : String) (arguments : List Expr) :
    ofJson? (nesting + 3) (Expr.call operation arguments).toJson =
      ((arguments.map toJson).mapM (ofJson? nesting)).map (.call operation) := by
  rw [toJson_call]
  cases read : (arguments.map toJson).mapM (ofJson? nesting) <;>
    simp [ofJson?, Value.fields?, Value.record, Value.uniqueMember?, Value.string?, Value.text,
      Value.list?, Value.items?, read]

theorem ofJson?_call_of_lt {nesting : Nat} (small : nesting < 3) (operation : String)
    (arguments : List Expr) : ofJson? nesting (Expr.call operation arguments).toJson = none := by
  rw [toJson_call]
  match nesting, small with
  | 0, _ => rfl
  | 1, _ => rfl
  | 2, _ => simp [ofJson?]

/-- A tree is read back where its nesting is allowed, and refused elsewhere. -/
theorem ofJson?_toJson {node : Expr} (readable : ∀ x ∈ node.floats, Value.ReadsBack x)
    (nesting : Nat) :
    ofJson? nesting node.toJson = if node.toJson.nesting ≤ nesting then some node else none := by
  induction node generalizing nesting with
  | literal value =>
    rw [nesting_literal]
    match nesting with
    | 0 => rfl
    | 1 => rfl
    | nesting + 2 =>
      have back := @Literal.ofJson?_toJson value (by simpa [floats] using readable)
      rw [ofJson?_literal, back, if_pos (by omega)]
      rfl
  | call operation arguments ih =>
    by_cases small : nesting < 3
    · have large : ¬ (Expr.call operation arguments).toJson.nesting ≤ nesting := by
        rw [nesting_call]
        omega
      rw [ofJson?_call_of_lt small, if_neg large]
    · obtain ⟨inside, rfl⟩ := Nat.exists_eq_add_of_le (Nat.le_of_not_lt small)
      have reads : ∀ argument ∈ arguments, ofJson? inside argument.toJson =
          if argument.toJson.nesting ≤ inside then some argument else none := by
        intro argument member
        apply ih argument member
        intro x isFloat
        apply readable
        rw [floats, floatsOf_eq_flatMap]
        exact List.mem_flatMap.mpr ⟨argument, member, isFloat⟩
      rw [Nat.add_comm, ofJson?_call, Value.mapM_map_eq_ite reads]
      simp only [nesting_call_le_iff]
      split <;> rfl

/-- The text of a tree, written on one line or indented, is read back as the tree where the tree
nests no deeper than the reader goes, and refused where it nests deeper. -/
theorem readBack_eq {node : Expr} (readable : ∀ x ∈ node.floats, Value.ReadsBack x) :
    (Value.read? node.toJson.compact).bind (ofJson? Value.nestingLimit) =
        (if node.nesting ≤ 127 then some node else none) ∧
      (Value.read? (node.toJson.pretty 0)).bind (ofJson? Value.nestingLimit) =
        if node.nesting ≤ 127 then some node else none := by
  have written := node.isWritten_toJson
  have reads := ofJson?_toJson readable Value.nestingLimit
  rw [nesting_toJson, Value.nestingLimit] at reads
  rw [Value.read?_compact written, Value.read?_pretty written, Option.bind_some]
  exact ⟨reads, reads⟩

/-- Calls around a float: forty-one are read back and forty-two are not. -/
theorem readBack_float :
    let calls (depth : Nat) : Expr := (fun node => .call "f" [node])^[depth]
      (.literal (.float (.finite false ⟨0x3FF8000000000000, by decide⟩)))
    (Value.read? (calls 41).toJson.compact).bind (ofJson? Value.nestingLimit) = some (calls 41) ∧
      (Value.read? (calls 42).toJson.compact).bind (ofJson? Value.nestingLimit) = none := by
  intro calls
  have reads : Value.ReadsBack (.finite false ⟨0x3FF8000000000000, by decide⟩) := by
    rw [Value.ReadsBack]
    decide +kernel
  have readable (depth : Nat) : ∀ x ∈ (calls depth).floats, Value.ReadsBack x := by
    induction depth with
    | zero =>
      intro x isFloat
      obtain rfl := List.mem_singleton.mp isFloat
      exact reads
    | succ depth ih =>
      simpa only [calls, Function.iterate_succ_apply', floats, floatsOf, List.append_nil] using ih
  have few : (calls 41).nesting ≤ 127 := by decide +kernel
  have many : ¬ (calls 42).nesting ≤ 127 := by decide +kernel
  exact ⟨(readBack_eq (readable 41)).1.trans (if_pos few),
    (readBack_eq (readable 42)).1.trans (if_neg many)⟩

end Expr
end StreamPlan
