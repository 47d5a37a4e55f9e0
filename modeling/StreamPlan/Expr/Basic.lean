import StreamPlan.Expr.Literal
import StreamPlan.Text.Names

set_option autoImplicit false

namespace StreamPlan

inductive Expr where
  | literal (value : Literal)
  | call (operation : String) (arguments : List Expr)
  deriving Repr

namespace Expr

-- A property of trees that calls inherit from their arguments.
@[induction_eliminator]
theorem induction {motive : Expr → Prop} (literal : ∀ value, motive (.literal value))
    (call : ∀ operation arguments, (∀ argument ∈ arguments, motive argument) →
      motive (.call operation arguments)) (node : Expr) : motive node :=
  @Expr.rec motive (fun nodes => ∀ node ∈ nodes, motive node) literal call (by simp)
    (fun _ _ first rest => List.forall_mem_cons.mpr ⟨first, rest⟩) node

mutual

/-- The number of calls nested in each other; a literal has none. -/
def depth : Expr → Nat
  | .literal _ => 0
  | .call _ arguments => depthMax arguments + 1
termination_by structural node => node

def depthMax : List Expr → Nat
  | [] => 0
  | node :: rest => max (depth node) (depthMax rest)
termination_by structural nodes => nodes

end

mutual

/-- The identifiers of a tree from left to right, with repetitions. -/
def identifiers : Expr → List String
  | .literal value => value.identifier?.toList
  | .call _ arguments => identifiersOf arguments
termination_by structural node => node

def identifiersOf : List Expr → List String
  | [] => []
  | node :: rest => identifiers node ++ identifiersOf rest
termination_by structural nodes => nodes

end

def fields (node : Expr) : List String := Names.ofList node.identifiers

mutual

def render : Expr → String
  | .literal value => value.render
  | .call operation [] => operation ++ "()"
  | .call operation (first :: rest) =>
    operation ++ "(" ++ render first ++ renderRest rest ++ ")"
termination_by structural node => node

def renderRest : List Expr → String
  | [] => ""
  | node :: rest => ", " ++ render node ++ renderRest rest
termination_by structural nodes => nodes

end

mutual

/-- Equality of trees whose floats compare as numbers. -/
def sameValue : Expr → Expr → Bool
  | .literal first, .literal second => first.sameValue second
  | .call operation arguments, .call operation' arguments' =>
    operation == operation' && sameValues arguments arguments'
  | _, _ => false
termination_by structural node => node

def sameValues : List Expr → List Expr → Bool
  | [], [] => true
  | first :: rest, first' :: rest' => sameValue first first' && sameValues rest rest'
  | _, _ => false
termination_by structural nodes => nodes

end

mutual

def decEq : (first second : Expr) → Decidable (first = second)
  | .literal first, .literal second =>
    if same : first = second then isTrue (same ▸ rfl) else isFalse (by simp [same])
  | .call operation arguments, .call operation' arguments' =>
    if same : operation = operation' then
      match decEqs arguments arguments' with
      | isTrue equal => isTrue (same ▸ equal ▸ rfl)
      | isFalse distinct => isFalse (by simp [distinct])
    else isFalse (by simp [same])
  | .literal _, .call _ _ => isFalse (by simp)
  | .call _ _, .literal _ => isFalse (by simp)
termination_by structural node => node

def decEqs : (first second : List Expr) → Decidable (first = second)
  | [], [] => isTrue rfl
  | first :: rest, first' :: rest' =>
    match decEq first first', decEqs rest rest' with
    | isTrue same, isTrue equal => isTrue (same ▸ equal ▸ rfl)
    | isFalse distinct, _ => isFalse (by simp [distinct])
    | _, isFalse distinct => isFalse (by simp [distinct])
  | [], _ :: _ => isFalse (by simp)
  | _ :: _, [] => isFalse (by simp)
termination_by structural nodes => nodes

end

instance : DecidableEq Expr := decEq

end Expr
end StreamPlan
