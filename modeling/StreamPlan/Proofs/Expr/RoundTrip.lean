import StreamPlan.Proofs.Expr.Rendering

/-! When the rendering of a tree is read back as the tree: exactly when none of its identifiers
opens a string with the text after it. -/

set_option autoImplicit false

namespace StreamPlan.Expr

open Literal (classify)

/-- At the first difference a string was scanned where a run was meant. -/
def Diverges (scanned intended : List Lexeme) : Prop :=
  ∃ common body name rest rest', scanned = common ++ .quoted body :: rest ∧
    intended = common ++ .run name :: rest'

namespace Diverges

variable {scanned intended : List Lexeme}

theorem prepend (diverges : Diverges scanned intended) (front : List Lexeme) :
    Diverges (front ++ scanned) (front ++ intended) := by
  obtain ⟨common, body, name, rest, rest', rfl, rfl⟩ := diverges
  exact ⟨front ++ common, body, name, rest, rest', by simp, by simp⟩

theorem append (diverges : Diverges scanned intended) (back : List Lexeme) :
    Diverges scanned (intended ++ back) := by
  obtain ⟨common, body, name, rest, rest', rfl, rfl⟩ := diverges
  exact ⟨common, body, name, rest, rest' ++ back, rfl, by simp⟩

theorem of_comma (diverges : Diverges (.comma :: scanned) (.comma :: intended)) :
    Diverges scanned intended := by
  obtain ⟨common, body, name, rest, rest', first, second⟩ := diverges
  cases common with
  | nil => cases first
  | cons mark common =>
    obtain ⟨rfl, scannedRest⟩ := List.cons.inj first
    exact ⟨common, body, name, rest, rest', scannedRest, (List.cons.inj second).2⟩

end Diverges

def Captured (places : List Place) : Prop := ∃ place ∈ places, OpensString place.text

theorem not_faithful_iff {places : List Place} : ¬ Faithful places ↔ Captured places := by
  simp [Faithful, Captured]

def DivergesIfCaptured (node : Expr) : Prop :=
  ∀ after, Stops after → Captured (node.places after) →
    Diverges (Token.lexemes (node.render.toList ++ after)) node.lexemes

theorem diverges_renderRest {nodes : List Expr} (spelled : ∀ node ∈ nodes, Spelled node)
    (diverges : ∀ node ∈ nodes, DivergesIfCaptured node) {after : List Char} (stops : Stops after)
    (captured : Captured (placesEach nodes after)) :
    Diverges (Token.lexemes ((renderRest nodes).toList ++ after))
      ((nodes.map lexemes).flatMap (.comma :: ·)) := by
  induction nodes with
  | nil => simp [Captured, placesEach] at captured
  | cons node rest ih =>
    obtain ⟨spelledNode, spelledRest⟩ := List.forall_mem_cons.mp spelled
    obtain ⟨divergesNode, divergesRest⟩ := List.forall_mem_cons.mp diverges
    rw [toList_renderRest_cons, List.cons_append, List.cons_append, lexemes_commaSpace,
      List.append_assoc, List.map_cons, List.flatMap_cons]
    -- the first argument with a captured identifier decides
    by_cases faithful : Faithful (node.places ((renderRest rest).toList ++ after))
    · have later : Captured (placesEach rest after) := by
        rw [← not_faithful_iff] at captured ⊢
        exact fun rest => captured (faithful_append.mpr ⟨faithful, rest⟩)
      rw [spelledNode.scansAs _ (stops.renderRest rest) faithful]
      exact (ih spelledRest divergesRest later).prepend (.comma :: node.lexemes)
    · have here := divergesNode _ (stops.renderRest rest) (not_faithful_iff.mp faithful)
      exact (here.append _).prepend [.comma]

theorem Spelled.divergesIfCaptured {node : Expr} (spelled : Spelled node) :
    DivergesIfCaptured node := by
  induction spelled with
  | quoted text =>
    rintro after stops ⟨place, member, -⟩
    simp [places, Literal.identifier?] at member
  | run isRun =>
    rintro after stops ⟨place, member, string⟩
    obtain ⟨body, rest, scanned⟩ :=
      lexemes_render_classify_of_opensString isRun member string
    rw [lexemes_literal_classify]
    exact ⟨[], body, _, rest, [], scanned, rfl⟩
  | @call name arguments named spelled ih =>
    intro after stops captured
    rw [lexemes_call]
    cases arguments with
    | nil => simp [Captured, places, placesEach] at captured
    | cons first rest =>
      have diverges := diverges_renderRest spelled ih (stops_closing after) captured
      rw [toList_renderRest_cons, List.cons_append, List.cons_append, lexemes_commaSpace,
        List.append_assoc, List.map_cons, List.flatMap_cons, List.cons_append] at diverges
      rw [toList_render_call, List.map_cons, separated_cons]
      simp only [List.append_assoc, List.cons_append, List.nil_append]
      rw [lexemes_name named, ← List.append_assoc (lexemes first)]
      exact (diverges.of_comma.append [.closing]).prepend [.run name, .opening]

def Lexeme.isString : Lexeme → Bool
  | .quoted _ => true
  | _ => false

theorem Diverges.isString_ne {scanned intended : List Lexeme}
    (diverges : Diverges scanned intended) :
    scanned.map Lexeme.isString ≠ intended.map Lexeme.isString := by
  rintro same
  obtain ⟨common, body, name, rest, rest', rfl, rfl⟩ := diverges
  simp [Lexeme.isString] at same

theorem map_isString_separated (pieces : List (List Lexeme)) :
    (separated pieces).map Lexeme.isString =
      [false].intercalate (pieces.map (·.map Lexeme.isString)) := by
  induction pieces with
  | nil => rfl
  | cons first rest ih =>
    cases rest with
    | nil => simp
    | cons second rest =>
      rw [separated_cons_cons, List.map_append, List.map_cons, ih]
      simp [Lexeme.isString]

theorem Derives.map_isString {spelling : List Lexeme} {node : Expr}
    (derived : Derives spelling node) :
    spelling.map Lexeme.isString = node.lexemes.map Lexeme.isString := by
  induction derived with
  | quoted text => rfl
  | run text =>
    rw [lexemes_literal_classify]
    rfl
  | @call name arguments named derived ih =>
    have same : (arguments.map (·.1)).map (·.map Lexeme.isString) =
        ((arguments.map (·.2)).map lexemes).map (·.map Lexeme.isString) := by
      simpa using ih
    rw [lexemes_call]
    simp only [List.map_cons, List.map_append, map_isString_separated, same]

theorem Spelled.derives {node : Expr} (spelled : Spelled node) : Derives node.lexemes node := by
  induction spelled with
  | quoted text => exact .quoted text
  | @run text isRun =>
    rw [lexemes_literal_classify]
    have derived := Derives.run (classify text).render
    rwa [(Literal.fromRun_classify text).classify_render] at derived
  | @call name arguments named spelled ih =>
    have derived := @Derives.call name (arguments.map fun node => (node.lexemes, node)) named
      (by simpa using ih)
    rw [lexemes_call]
    simpa [Function.comp_def] using derived

theorem parse_render_of_faithful {node : Expr} (spelled : Spelled node)
    (faithful : Faithful (node.places [])) {limit : Nat} (fits : node.depth ≤ limit) :
    parse limit node.render = .ok node := by
  have scanned := spelled.scansAs [] (by simp [Stops]) faithful
  rw [List.append_nil, Token.lexemes_nil, List.append_nil] at scanned
  rw [parse_eq_ok_iff, Token.scan, Token.map_scanFrom, scanned]
  exact ⟨spelled.derives, fits⟩

theorem parse_render_ne_of_captured {node : Expr} (spelled : Spelled node)
    (captured : Captured (node.places [])) (limit : Nat) : parse limit node.render ≠ .ok node := by
  rw [ne_eq, parse_eq_ok_iff, Token.scan, Token.map_scanFrom]
  rintro ⟨derived, -⟩
  -- what was scanned would have its strings where the tree has them
  have diverges := spelled.divergesIfCaptured [] (by simp [Stops]) captured
  rw [List.append_nil] at diverges
  exact diverges.isString_ne derived.map_isString

/-- What was parsed is parsed again from its rendering exactly when no identifier of the rendering
opens a string. -/
theorem parse_render_iff {limit : Nat} {text : String} {node : Expr}
    (parsed : parse limit text = .ok node) :
    parse limit node.render = .ok node ↔ ∀ place ∈ node.places [], ¬ OpensString place.text := by
  have spelled := spelled_of_parse parsed
  constructor
  · intro readBack
    by_contra captured
    exact parse_render_ne_of_captured spelled (not_faithful_iff.mp captured) limit readBack
  · intro faithful
    exact parse_render_of_faithful spelled faithful (parse_eq_ok_iff.mp parsed).2

/-- Quotes that open no string are read back. -/
theorem parse_render_openQuotes :
    parse 64 "f('a, 'b)" =
      .ok (.call "f" [.literal (.identifier "'a"), .literal (.identifier "'b")]) ∧
    parse 64 "f('a, 'b)" = parse 64
      (Expr.call "f" [.literal (.identifier "'a"), .literal (.identifier "'b")]).render := by
  have parsed : parse 64 "f('a, 'b)" =
      .ok (.call "f" [.literal (.identifier "'a"), .literal (.identifier "'b")]) := by
    decide +kernel
  refine ⟨parsed, parsed.trans ((parse_render_iff parsed).mpr ?_).symm⟩
  intro place member
  have places : place = ⟨"'a", ", 'b)".toList⟩ ∨ place = ⟨"'b", ")".toList⟩ := by
    simpa [places, placesEach, Literal.identifier?, renderRest, render, Literal.render] using member
  rcases places with rfl | rfl
  · exact fun string => absurd (quoted?_isSome_iff.mpr string) (by decide +kernel)
  · exact fun string => absurd (quoted?_isSome_iff.mpr string) (by decide +kernel)

/-- A string keeps its text and changes its quotes, which may close a string that an identifier
before it opens. -/
theorem parse_render_captured :
    parse 64 "f('a, \",x\")" = .ok (.call "f" [.literal (.identifier "'a"), .literal (.str ",x")]) ∧
    parse 64 (Expr.call "f" [.literal (.identifier "'a"), .literal (.str ",x")]).render =
      .ok (.call "f" [.literal (.str "a, "), .literal (.identifier "x'")]) := by
  decide +kernel

end StreamPlan.Expr
