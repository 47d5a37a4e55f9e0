import StreamPlan.Proofs.Expr.WellFormed
import StreamPlan.Proofs.Text.Names

/-! The fields that an expression refers to, said of its lexemes alone. A tree keeps every run that
no opening parenthesis follows, in order and as often as it occurs; the other runs are the names of
calls, and strings are no runs. -/

set_option autoImplicit false

namespace StreamPlan.Expr

open Literal (classify)
open Names (Lists)

/-- The runs that no opening parenthesis follows, from left to right. -/
def leaves : List Lexeme → List String
  | [] => []
  | .run text :: rest =>
    if rest.head? = some .opening then leaves rest else text :: leaves rest
  | _ :: rest => leaves rest

/-- The run is one of these lexemes, and the next of them, if there is one, does not make it the
name of a call. -/
def IsLeaf (lexemes : List Lexeme) (text : String) : Prop :=
  ∃ before after, lexemes = before ++ .run text :: after ∧ after.head? ≠ some .opening

theorem isLeaf_cons_iff {lexeme : Lexeme} {rest : List Lexeme} {text : String} :
    IsLeaf (lexeme :: rest) text ↔
      (lexeme = .run text ∧ rest.head? ≠ some .opening) ∨ IsLeaf rest text := by
  constructor
  · rintro ⟨before, after, spelled, noCall⟩
    rcases List.cons_eq_append_iff.mp spelled with ⟨rfl, here⟩ | ⟨before, rfl, later⟩
    · cases here
      exact Or.inl ⟨rfl, noCall⟩
    · exact Or.inr ⟨before, after, later, noCall⟩
  · rintro (⟨rfl, noCall⟩ | ⟨before, after, rfl, noCall⟩)
    · exact ⟨[], rest, rfl, noCall⟩
    · exact ⟨lexeme :: before, after, rfl, noCall⟩

theorem mem_leaves_iff {lexemes : List Lexeme} {text : String} :
    text ∈ leaves lexemes ↔ IsLeaf lexemes text := by
  induction lexemes with
  | nil => simp [leaves, IsLeaf]
  | cons lexeme rest ih =>
    rw [isLeaf_cons_iff, ← ih]
    cases lexeme with
    | run name =>
      rw [leaves]
      split <;> simp [*, eq_comm]
    | _ => simp [leaves]

-- What follows a run matters only where it is an opening parenthesis.
theorem leaves_append {first second : List Lexeme} (noCall : second.head? ≠ some .opening) :
    leaves (first ++ second) = leaves first ++ leaves second := by
  induction first with
  | nil => rfl
  | cons lexeme rest ih =>
    cases lexeme with
    | run text =>
      have next : (rest ++ second).head? = some .opening ↔ rest.head? = some .opening := by
        cases rest with
        | nil => simpa using noCall
        | cons lexeme rest => rfl
      simp only [List.cons_append, leaves, next, ih]
      split <;> rfl
    | _ => simpa only [List.cons_append, leaves] using ih

theorem leaves_separated (pieces : List (List Lexeme)) :
    leaves (separated pieces) = pieces.flatMap leaves := by
  induction pieces with
  | nil => rfl
  | cons first rest ih =>
    cases rest with
    | nil => simp
    | cons second rest =>
      rw [separated_cons_cons, leaves_append (by simp), List.flatMap_cons, ← ih]
      simp only [leaves]

theorem leaves_call (name : String) (pieces : List (List Lexeme)) :
    leaves (.run name :: .opening :: (separated pieces ++ [.closing])) = pieces.flatMap leaves := by
  simp only [leaves, List.head?_cons, if_true]
  rw [leaves_append (by simp), leaves_separated]
  simp [leaves]

/-- The identifiers of a tree are those among its leaves, in order and as often as they occur. -/
theorem Derives.identifiers_eq {lexemes : List Lexeme} {node : Expr}
    (derived : Derives lexemes node) :
    node.identifiers = (leaves lexemes).filterMap fun text => (classify text).identifier? := by
  induction derived with
  | quoted text => rfl
  | run text =>
    have leaf : leaves [.run text] = [text] := by simp [leaves]
    rw [leaf, identifiers, List.filterMap_cons]
    cases (classify text).identifier? <;> rfl
  | call named derived ih =>
    rw [leaves_call, identifiers, identifiersOf_eq_flatMap, List.filterMap_flatMap,
      List.flatMap_map, List.flatMap_map]
    exact List.flatMap_congr ih

theorem IsRun.identifier?_eq_some_iff {text name : String} (isRun : IsRun text.toList) :
    (classify text).identifier? = some name ↔
      name = text ∧ ∃ field, classify text = .identifier field := by
  constructor
  · intro isIdentifier
    refine ⟨(render_of_identifier? isRun isIdentifier).1, name, ?_⟩
    cases classified : classify text <;> simp_all [Literal.identifier?]
  · rintro ⟨rfl, field, classified⟩
    have same := Literal.name_of_classify classified
    rw [isRun.trimmed.trim_eq] at same
    rw [classified, same]
    rfl

def RefersTo (lexemes : List Lexeme) (name : String) : Prop :=
  IsLeaf lexemes name ∧ ∃ field, classify name = .identifier field

theorem Derives.mem_identifiers_iff {lexemes : List Lexeme} {node : Expr}
    (derived : Derives lexemes node) (runs : ∀ text, .run text ∈ lexemes → IsRun text.toList)
    {name : String} : name ∈ node.identifiers ↔ RefersTo lexemes name := by
  have isRun {text : String} (leaf : IsLeaf lexemes text) : IsRun text.toList := by
    obtain ⟨before, after, spelled, -⟩ := leaf
    exact runs text (by simp [spelled])
  rw [derived.identifiers_eq, List.mem_filterMap]
  constructor
  · rintro ⟨text, member, isIdentifier⟩
    have leaf := mem_leaves_iff.mp member
    obtain ⟨rfl, classified⟩ := (isRun leaf).identifier?_eq_some_iff.mp isIdentifier
    exact ⟨leaf, classified⟩
  · rintro ⟨leaf, classified⟩
    exact ⟨name, mem_leaves_iff.mpr leaf,
      (isRun leaf).identifier?_eq_some_iff.mpr ⟨rfl, classified⟩⟩

/-- The fields of what was parsed, each once and in ascending order, are the runs of the text that
no opening parenthesis follows and that stand for identifiers. -/
theorem fields_exact {limit : Nat} {text : String} {node : Expr}
    (parsed : parse limit text = .ok node) :
    Lists (RefersTo ((Token.scan text).map (·.lexeme))) node.fields := by
  have derived := (parse_eq_ok_iff.mp parsed).1
  exact Names.lists_ofList fun name => derived.mem_identifiers_iff fun _ => isRun_of_mem_lexemes

/-- A field that occurs twice, one with the name of a call, and strings and constants, which are no
fields. -/
theorem fields_exact_repeated :
    let text := "div(total, sum(packets, 'bytes', \"div\", total), 1e3, sum, True)"
    let inner : Expr := .call "sum" [.literal (.identifier "packets"), .literal (.str "bytes"),
      .literal (.str "div"), .literal (.identifier "total")]
    let node : Expr := .call "div" [.literal (.identifier "total"), inner,
      .literal (.float (.ofDecimal false 1 3)), .literal (.identifier "sum"), .literal (.bool true)]
    parse 64 text = .ok node ∧ node.fields = ["packets", "sum", "total"] ∧
      Lists (RefersTo ((Token.scan text).map (·.lexeme))) node.fields := by
  intro text inner node
  have parsed : parse 64 text = .ok node := by decide +kernel
  have identifiers : node.identifiers = ["total", "packets", "total", "sum"] := by decide +kernel
  have ascending : ["packets", "sum", "total"].Pairwise (· < ·) := by decide +kernel
  have same : ∀ name, name ∈ ["packets", "sum", "total"] ↔ name ∈ node.identifiers := by
    intro name
    simp only [identifiers, List.mem_cons, List.not_mem_nil, or_false]
    tauto
  have fields := (Names.lists_ofList fun _ => Iff.rfl).unique ⟨ascending, same⟩
  exact ⟨parsed, fields, fields_exact parsed⟩

end StreamPlan.Expr
