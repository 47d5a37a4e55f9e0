import StreamPlan.Proofs.Expr.Rendering

/-! The trees of strings, runs and named calls are the well-formed ones: their floats are finite,
their identifiers are nothing else, and every call has a name. If no identifier begins with a quote,
none of them opens a string, wherever the tree is rendered. -/

set_option autoImplicit false

namespace StreamPlan

open Literal (classify finite? int64?)

structure IsIdentifier (name : String) : Prop extends Expr.IsRun name.toList where
  classified : classify name = .identifier name
  noTruthValue : name ≠ "True" ∧ name ≠ "False"
  noNumber : int64? name.toList = none ∧ finite? name.toList = none

namespace Literal

def WellFormed : Literal → Prop
  | .float value => value.isFinite = true
  | .identifier name => IsIdentifier name
  | .bool _ | .int _ | .str _ => True

theorem wellFormed_classify {text : String} (run : Expr.IsRun text.toList) :
    (classify text).WellFormed := by
  have fromRun := fromRun_classify text
  cases classified : classify text with
  | bool value => trivial
  | int value => trivial
  | str value => trivial
  | float value =>
    rw [classified] at fromRun
    cases fromRun with
    | float finite => exact finite
  | identifier name =>
    obtain ⟨rfl, noTruthValue, noNumber⟩ := classify_eq_identifier_iff.mp classified
    rw [run.trimmed.trim_eq] at classified noTruthValue noNumber ⊢
    exact ⟨run, classified, noTruthValue, noNumber⟩

theorem isIdentifier_iff {name : String} :
    IsIdentifier name ↔ Expr.IsRun name.toList ∧ classify name = .identifier name := by
  constructor
  · exact fun identifier => ⟨identifier.toIsRun, identifier.classified⟩
  · rintro ⟨run, classified⟩
    have wellFormed := wellFormed_classify run
    rwa [classified] at wellFormed

/-- A well-formed literal that is no string is spelled by a run. -/
theorem WellFormed.exists_run {literal : Literal} (wellFormed : literal.WellFormed)
    (noString : ∀ text, literal ≠ .str text) :
    ∃ text, Expr.IsRun text.toList ∧ classify text = literal := by
  cases literal with
  | str text => exact absurd rfl (noString text)
  | identifier name => exact ⟨name, wellFormed.toIsRun, wellFormed.classified⟩
  | bool value =>
    have fromRun := FromRun.bool value
    exact ⟨_, (Expr.isPlainText_render fromRun rfl).isRun, fromRun.classify_render⟩
  | int value =>
    have fromRun := FromRun.int value
    exact ⟨_, (Expr.isPlainText_render fromRun rfl).isRun, fromRun.classify_render⟩
  | float value =>
    have fromRun := FromRun.float wellFormed
    exact ⟨_, (Expr.isPlainText_render fromRun rfl).isRun, fromRun.classify_render⟩

end Literal

namespace Expr

inductive WellFormed : Expr → Prop where
  | literal {value : Literal} (wellFormed : value.WellFormed) : WellFormed (.literal value)
  | call {operation : String} {arguments : List Expr} (named : Text.isName operation = true)
      (each : ∀ argument ∈ arguments, WellFormed argument) : WellFormed (.call operation arguments)

theorem spelled_iff_wellFormed {node : Expr} : node.Spelled ↔ node.WellFormed := by
  constructor
  · intro spelled
    induction spelled with
    | quoted text => exact .literal trivial
    | run isRun => exact .literal (Literal.wellFormed_classify isRun)
    | call named spelled ih => exact .call named ih
  · intro wellFormed
    induction wellFormed with
    | @literal value wellFormed =>
      by_cases isString : ∃ text, value = .str text
      · obtain ⟨text, rfl⟩ := isString
        exact .quoted text
      · obtain ⟨text, isRun, rfl⟩ := wellFormed.exists_run (not_exists.mp isString)
        exact .run isRun
    | call named each ih => exact .call named ih

def Unquoted (node : Expr) : Prop :=
  ∀ name ∈ node.identifiers, ∀ c ∈ name.toList.head?, c ≠ '\'' ∧ c ≠ '"'

theorem identifiersOf_eq_flatMap (nodes : List Expr) :
    identifiersOf nodes = nodes.flatMap identifiers := by
  induction nodes with
  | nil => rfl
  | cons node rest ih => rw [identifiersOf, ih, List.flatMap_cons]

theorem WellFormed.isIdentifier {node : Expr} (wellFormed : node.WellFormed) {name : String}
    (member : name ∈ node.identifiers) : IsIdentifier name := by
  induction wellFormed with
  | @literal value wellFormed =>
    cases value with
    | identifier name' =>
      obtain rfl := List.mem_singleton.mp member
      exact wellFormed
    | _ => cases member
  | call named each ih =>
    rw [identifiers, identifiersOf_eq_flatMap] at member
    obtain ⟨argument, inside, member⟩ := List.mem_flatMap.mp member
    exact ih argument inside member

theorem map_name_placesEach {nodes : List Expr}
    (each : ∀ node ∈ nodes, ∀ after, (node.places after).map (·.name) = node.identifiers)
    (after : List Char) : (placesEach nodes after).map (·.name) = identifiersOf nodes := by
  induction nodes with
  | nil => rfl
  | cons node rest ih =>
    obtain ⟨first, others⟩ := List.forall_mem_cons.mp each
    rw [placesEach, identifiersOf, List.map_append, first, ih others]

theorem map_name_places (node : Expr) (after : List Char) :
    (node.places after).map (·.name) = node.identifiers := by
  induction node generalizing after with
  | literal value => simp [places, identifiers, Function.comp_def]
  | call operation arguments ih =>
    rw [places, identifiers, map_name_placesEach fun argument member => ih argument member]

theorem WellFormed.faithful {node : Expr} (wellFormed : node.WellFormed)
    (unquoted : node.Unquoted) (after : List Char) : Faithful (node.places after) := by
  rintro ⟨name, behind⟩ member
  have isName : name ∈ node.identifiers := by
    rw [← node.map_name_places after]
    exact List.mem_map_of_mem member
  obtain ⟨c, rest, start⟩ :=
    List.exists_cons_of_ne_nil (wellFormed.isIdentifier isName).nonempty
  rw [Place.text, start]
  exact not_opensString (unquoted name isName c (by simp [start])) (rest ++ behind)

end Expr
end StreamPlan
