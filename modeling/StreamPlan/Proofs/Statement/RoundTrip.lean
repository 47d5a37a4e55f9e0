import StreamPlan.Proofs.Pipeline.WellFormed

/-! The statements of output columns: written down from well-formed columns whose identifiers begin
with no quote, they compile to these columns. -/

set_option autoImplicit false

namespace StreamPlan

def Item.statement : Item → String
  | .field name => name
  | .derived name body => name ++ ": " ++ body.render

namespace Statement

variable {limit : Nat}

theorem compile_statement {item : Item} (wellFormed : item.WellFormed limit)
    (unquoted : ∀ body ∈ item.body?, body.Unquoted) :
    compile limit item.statement = .ok (some item) := by
  obtain ⟨named, trimmed, noColon, body⟩ := wellFormed
  cases item with
  | field name => exact compile_field named trimmed noColon
  | derived name node =>
    obtain ⟨shallow, nodeWellFormed⟩ := body node rfl
    have spelled := Expr.spelled_iff_wellFormed.mpr nodeWellFormed
    obtain ⟨filled, nodeTrimmed⟩ := spelled.isTrimmed_render
    have faithful := nodeWellFormed.faithful (unquoted node rfl) []
    have parsed := Expr.parse_render_of_faithful spelled faithful shallow
    exact compile_derived named trimmed noColon filled nodeTrimmed parsed

/-- The statements of well-formed columns compile to the columns, all of them and in order, when
none of their identifiers begins with a quote. Strings may hold any characters. -/
theorem compileAll_statements {items : List Item}
    (wellFormed : ∀ item ∈ items, item.WellFormed limit)
    (unquoted : ∀ item ∈ items, ∀ body ∈ item.body?, body.Unquoted) :
    compileAll limit (items.map Item.statement) = .ok items :=
  filterMapM_map_eq_ok fun item member =>
    compile_statement (wellFormed item member) (unquoted item member)

/-- A string with all that parts statements, expressions and strings, and an identifier with a quote
inside. -/
theorem compileAll_statements_marks :
    let body : Expr := .call "concat" [.literal (.str "it's \"a\\b\": (1, 2)\n"),
      .literal (.identifier "user's id"),
      .literal (.float (.finite true ⟨0x3FE0000000000000, by decide⟩)), .call "now" []]
    let items : List Item := [.field "host name", .derived "key (new)" body]
    body.render = "concat('it\\'s \"a\\\\b\": (1, 2)\n', user's id, -0.5, now())" ∧
      compileAll 2 (items.map Item.statement) = .ok items := by
  intro body items
  have bodyWellFormed : body.WellFormed := by
    refine .call (by decide +kernel) ?_
    simp only [List.forall_mem_cons]
    have isRun : Expr.IsRun "user's id".toList :=
      ⟨by decide, Text.isTrimmed_iff.mpr (by decide +kernel), by simp [Expr.Token.isDelimiter]⟩
    have classified : Literal.classify "user's id" = .identifier "user's id" := by decide +kernel
    exact ⟨.literal trivial, .literal (Literal.isIdentifier_iff.mpr ⟨isRun, classified⟩),
      .literal rfl, .call (by decide +kernel) nofun, nofun⟩
  have wellFormed : ∀ item ∈ items, item.WellFormed 2 := by
    simp only [items, List.forall_mem_cons]
    refine ⟨⟨by decide, Text.isTrimmed_iff.mpr (by decide +kernel), by decide, nofun⟩,
      ⟨by decide, Text.isTrimmed_iff.mpr (by decide +kernel), by decide, ?_⟩, nofun⟩
    intro node isBody
    cases isBody
    exact ⟨by decide +kernel, bodyWellFormed⟩
  have unquoted : ∀ item ∈ items, ∀ body ∈ item.body?, body.Unquoted := by
    simp [items, body, Item.body?, Expr.Unquoted, Expr.identifiers, Expr.identifiersOf,
      Literal.identifier?]
  exact ⟨by decide +kernel, compileAll_statements wellFormed unquoted⟩

end Statement
end StreamPlan
