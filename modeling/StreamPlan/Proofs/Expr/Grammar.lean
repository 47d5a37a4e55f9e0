import Mathlib.Data.List.Forall2
import StreamPlan.Expr.Parser

/-! The grammar of expressions over lexemes, and what reading lexemes from the left has to do with
it: in every state the lexemes read so far are those of the open calls and of what stands after
them. -/

set_option autoImplicit false

namespace StreamPlan.Expr

def separated (pieces : List (List Lexeme)) : List Lexeme := [Lexeme.comma].intercalate pieces

/-- The lexemes that spell a tree. The arguments of a call are pairs of lexemes and the tree they
spell; a call without arguments has nothing between its parentheses. -/
inductive Derives : List Lexeme → Expr → Prop where
  | quoted (text : String) : Derives [.quoted text] (.literal (.str text))
  | run (text : String) : Derives [.run text] (.literal (.classify text))
  | call {name : String} {arguments : List (List Lexeme × Expr)}
      (named : Text.isName name = true)
      (derived : ∀ argument ∈ arguments, Derives argument.1 argument.2) :
      Derives (.run name :: .opening :: (separated (arguments.map (·.1)) ++ [.closing]))
        (.call name (arguments.map (·.2)))

theorem derives_call_iff {lexemes : List Lexeme} {name : String} {nodes : List Expr} :
    Derives lexemes (.call name nodes) ↔ Text.isName name = true ∧ ∃ pieces,
      lexemes = .run name :: .opening :: (separated pieces ++ [.closing]) ∧
      List.Forall₂ Derives pieces nodes := by
  constructor
  · rintro (_ | _ | ⟨named, derived⟩)
    refine ⟨named, _, rfl, ?_⟩
    rw [List.forall₂_map_left_iff, List.forall₂_map_right_iff, List.forall₂_same]
    exact derived
  · rintro ⟨named, pieces, rfl, derived⟩
    have called := @Derives.call name (pieces.zip nodes) named
      fun argument member => List.forall₂_zip derived member
    rwa [List.map_fst_zip (Nat.le_of_eq derived.length_eq),
      List.map_snd_zip (Nat.le_of_eq derived.length_eq.symm)] at called

@[simp] theorem separated_nil : separated [] = [] := rfl

@[simp] theorem separated_singleton (piece : List Lexeme) : separated [piece] = piece := by
  simp [separated]

@[simp] theorem separated_cons_cons (first second : List Lexeme) (rest : List (List Lexeme)) :
    separated (first :: second :: rest) = first ++ .comma :: separated (second :: rest) := by
  simp [separated]

theorem separated_cons (first : List Lexeme) (rest : List (List Lexeme)) :
    separated (first :: rest) = first ++ rest.flatMap (.comma :: ·) := by
  induction rest generalizing first with
  | nil => simp
  | cons second rest ih => rw [separated_cons_cons, ih, List.flatMap_cons, List.cons_append]

theorem mem_separated {piece : List Lexeme} {pieces : List (List Lexeme)} {lexeme : Lexeme}
    (member : piece ∈ pieces) (inside : lexeme ∈ piece) : lexeme ∈ separated pieces := by
  cases pieces with
  | nil => cases member
  | cons first rest =>
    rw [separated_cons, List.mem_append, List.mem_flatMap]
    rcases List.mem_cons.mp member with rfl | later
    · exact Or.inl inside
    · exact Or.inr ⟨piece, later, List.mem_cons_of_mem _ inside⟩

/-- Pieces that each have a comma after them, and a last one without. -/
theorem separated_concat (pieces : List (List Lexeme)) (last : List Lexeme) :
    separated (pieces ++ [last]) = pieces.flatMap (· ++ [.comma]) ++ last := by
  induction pieces with
  | nil => simp
  | cons first rest ih =>
    cases rest with
    | nil => simp
    | cons second rest => simp_all

theorem exists_of_map_comma {tokens : List Token} {first rest : List Lexeme}
    (spelled : tokens.map (·.lexeme) = first ++ .comma :: rest) :
    ∃ front comma after, tokens = front ++ comma :: after ∧ front.map (·.lexeme) = first ∧
      comma.lexeme = .comma ∧ after.map (·.lexeme) = rest := by
  obtain ⟨front, back, rfl, spelledFront, spelledBack⟩ := List.map_eq_append_iff.mp spelled
  obtain ⟨comma, after, rfl, isComma, spelledAfter⟩ := List.map_eq_cons_iff.mp spelledBack
  exact ⟨front, comma, after, rfl, spelledFront, isComma, spelledAfter⟩

theorem exists_of_map_call {tokens : List Token} {name : String} {arguments : List Lexeme}
    (spelled : tokens.map (·.lexeme) = .run name :: .opening :: (arguments ++ [.closing])) :
    ∃ run opening inside closing, tokens = run :: opening :: (inside ++ [closing]) ∧
      run.lexeme = .run name ∧ opening.lexeme = .opening ∧ inside.map (·.lexeme) = arguments ∧
      closing.lexeme = .closing := by
  obtain ⟨run, afterName, rfl, isRun, spelledCall⟩ := List.map_eq_cons_iff.mp spelled
  obtain ⟨opening, afterOpening, rfl, isOpening, spelledRest⟩ := List.map_eq_cons_iff.mp spelledCall
  obtain ⟨inside, back, rfl, spelledInside, spelledBack⟩ := List.map_eq_append_iff.mp spelledRest
  obtain ⟨closing, rfl, isClosing⟩ := List.map_eq_singleton_iff.mp spelledBack
  exact ⟨run, opening, inside, closing, rfl, isRun, isOpening, spelledInside, isClosing⟩

theorem depthMax_le_iff {nodes : List Expr} {bound : Nat} :
    depthMax nodes ≤ bound ↔ ∀ node ∈ nodes, node.depth ≤ bound := by
  induction nodes with
  | nil => simp [depthMax]
  | cons node rest ih => rw [depthMax, Nat.max_le, ih, List.forall_mem_cons]

-- A call inside `outer` others stays within a limit when it does itself and its arguments do, which
-- are one call further inside.
theorem depth_call_le_iff (name : String) {nodes : List Expr} {outer limit : Nat} :
    outer + (Expr.call name nodes).depth ≤ limit ↔
      outer < limit ∧ ∀ node ∈ nodes, outer + 1 + node.depth ≤ limit := by
  have inside : depthMax nodes ≤ limit - (outer + 1) ↔
      ∀ node ∈ nodes, node.depth ≤ limit - (outer + 1) := depthMax_le_iff
  constructor
  · intro fits
    simp only [depth] at fits
    refine ⟨by omega, fun node member => ?_⟩
    have := inside.mp (by omega) node member
    omega
  · rintro ⟨bounded, fits⟩
    have := inside.mpr fun node member => by have := fits node member; omega
    simp only [depth]
    omega

theorem balanced_separated {pieces : List (List Lexeme)}
    (each : ∀ piece ∈ pieces, piece.count .opening = piece.count .closing) :
    (separated pieces).count .opening = (separated pieces).count .closing := by
  induction pieces with
  | nil => rfl
  | cons first rest ih =>
    obtain ⟨balanced, others⟩ := List.forall_mem_cons.mp each
    cases rest with
    | nil => simpa using balanced
    | cons second rest =>
      rw [separated_cons_cons, List.count_append, List.count_append, balanced,
        List.count_cons_of_ne (by simp), List.count_cons_of_ne (by simp), ih others]

theorem Derives.balanced {lexemes : List Lexeme} {node : Expr} (derived : Derives lexemes node) :
    lexemes.count .opening = lexemes.count .closing := by
  induction derived with
  | quoted text => rfl
  | run text => rfl
  | @call name arguments named derived ih =>
    have inside := balanced_separated (List.forall_mem_map.mpr ih)
    simp [List.count_append, inside]

theorem Derives.ne_nil {lexemes : List Lexeme} {node : Expr} (derived : Derives lexemes node) :
    lexemes ≠ [] := by
  cases derived <;> simp

end StreamPlan.Expr
