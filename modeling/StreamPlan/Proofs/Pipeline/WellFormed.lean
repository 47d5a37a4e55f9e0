import StreamPlan.Proofs.Expr.WellFormed
import StreamPlan.Proofs.Pipeline.Plan

/-! The columns of a compiled plan: names that a statement can give, and well-formed bodies within
the depth limit. -/

set_option autoImplicit false

namespace StreamPlan

structure Item.WellFormed (limit : Nat) (item : Item) : Prop where
  named : item.outputName.toList ≠ []
  trimmed : Text.IsTrimmed item.outputName.toList
  noColon : ':' ∉ item.outputName.toList
  body : ∀ body ∈ item.body?, body.depth ≤ limit ∧ body.WellFormed

namespace Statement

variable {limit : Nat} {statement : String} {item : Item}

theorem Reads.wellFormed (reads : Reads limit statement item) (named : statement.toList ≠ [])
    (trimmed : Text.IsTrimmed statement.toList) : item.WellFormed limit := by
  cases reads with
  | field noColon => exact ⟨named, trimmed, noColon, by simp [Item.body?]⟩
  | @derived before after body whole noColon named parsed =>
    refine ⟨named, Text.isTrimmed_toList_trim _, fun isColon => ?_, ?_⟩
    · have inside := Text.mem_of_mem_trim isColon
      rw [String.toList_ofList] at inside
      exact noColon inside
    · intro body' isBody
      cases isBody
      exact ⟨(Expr.parse_eq_ok_iff.mp parsed).2,
        Expr.spelled_iff_wellFormed.mp (Expr.spelled_of_parse parsed)⟩

theorem wellFormed_of_compile (compiled : compile limit statement = .ok (some item)) :
    item.WellFormed limit := by
  obtain ⟨filled, reads⟩ := compile_eq_some_iff.mp compiled
  exact reads.wellFormed (Text.toList_trim_ne_nil filled) (Text.isTrimmed_toList_trim statement)

end Statement

namespace Config

/-- Every column of a compiled plan is well formed, for the configured depth limit or else 64. -/
theorem compiled_wellFormed {config : Config} {schema : Schema} {plan : Plan}
    (compiled : config.compile schema = .ok plan) :
    ∀ item ∈ plan.items, item.WellFormed (config.depthLimit.getD 64) := by
  intro item member
  obtain ⟨statement, -, found⟩ :=
    exists_of_mem_filterMapM (Config.compileAll_of_compile compiled) member
  exact Statement.wellFormed_of_compile found

theorem compiled_wellFormed_load :
    let plan : Plan := ⟨[.field "host", .derived "load" (.call "mult"
      [.literal (.identifier "cpu time"),
        .literal (.float (.finite true ⟨0x3FE0000000000000, by decide⟩))])], none⟩
    Config.compile ⟨[" host", "load : mult(cpu time, -0.5)"], none, some 1⟩ ⟨[]⟩ = .ok plan ∧
      ∀ item ∈ plan.items, item.WellFormed 1 := by
  intro plan
  have compiled : Config.compile ⟨[" host", "load : mult(cpu time, -0.5)"], none, some 1⟩ ⟨[]⟩ =
      .ok plan := by decide +kernel
  exact ⟨compiled, compiled_wellFormed compiled⟩

end Config
end StreamPlan
