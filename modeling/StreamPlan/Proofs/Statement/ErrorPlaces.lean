import StreamPlan.Proofs.Expr.ErrorPlaces
import StreamPlan.Proofs.Statement.Compile

/-! The errors in statements carry the expression they are about, and their positions are places of
it. The expression is what stands after the first colon, without the blanks around it. -/

set_option autoImplicit false

namespace StreamPlan.Statement

variable {limit : Nat}

/-- The name and the body of a statement, before and after its first colon and without the blanks
around them. -/
def HasParts (statement name body : String) : Prop :=
  ∃ before after : List Char, statement.toList = before ++ ':' :: after ∧ ':' ∉ before ∧
    name = Text.trim (String.ofList before) ∧ body = Text.trim (String.ofList after)

-- The blanks around a statement are no colons, so its first colon remains the first.
theorem hasParts_of_trim {statement name body : String}
    (parts : HasParts (Text.trim statement) name body) : HasParts statement name body := by
  obtain ⟨before, after, whole, noColon, rfl, rfl⟩ := parts
  obtain ⟨front, back, blankFront, blankBack, padded⟩ := Text.exists_append_trim_append statement
  refine ⟨front ++ before, after ++ back, ?_, ?_,
    (Text.trim_blanks_append blankFront before).symm, (Text.trim_append_blanks after blankBack).symm⟩
  · rw [padded, whole]
    simp
  · intro member
    rcases List.mem_append.mp member with member | member
    · exact Text.not_mem_of_visible blankFront not_isBlank_colon member
    · exact noColon member

/-- The column and the expression of a failure are those of the statement that fails. -/
theorem located_of_compile {statement name : String} {invalid : InvalidExpr}
    (failed : compile limit statement = .error (.expression name invalid)) :
    HasParts statement name invalid.expression ∧ invalid.Located := by
  cases refuses_of_compile failed with
  | expression whole noColon named failed =>
    obtain ⟨text, located⟩ := Expr.located_of_read failed
    exact ⟨hasParts_of_trim ⟨_, _, whole, noColon, rfl, text⟩, located⟩

/-- An error of an expression carries the text as it is given, an error of a statement the trimmed
text after the first colon, and either is located in the text that it carries. -/
theorem errors_located (limit : Nat) :
    (∀ (text : String) (invalid : InvalidExpr), Expr.read limit text = .error invalid →
      invalid.expression = text ∧ invalid.Located) ∧
    ∀ (statements : List String) (name : String) (invalid : InvalidExpr),
      compileAll limit statements = .error (.expression name invalid) →
        (∃ statement ∈ statements, HasParts statement name invalid.expression) ∧
          invalid.Located := by
  refine ⟨fun text invalid => Expr.located_of_read, ?_⟩
  intro statements name invalid failed
  obtain ⟨earlier, statement, later, -, rfl, -, failed⟩ := filterMapM_eq_error failed
  obtain ⟨parts, located⟩ := located_of_compile failed
  exact ⟨⟨statement, by simp, parts⟩, located⟩

/-- The argument that is missing comes after characters of more than one byte, and the statement has
blanks around it, so that its offset there is another. -/
theorem errors_located_padded :
    let invalid : InvalidExpr := ⟨"größe('é',)", .emptyArgument 10⟩
    let statements := ["id", " größe :  größe('é',) "]
    Expr.read 8 "größe('é',)" = .error invalid ∧
      compileAll 8 statements = .error (.expression "größe" invalid) ∧ invalid.Located ∧
      ∃ statement ∈ statements, HasParts statement "größe" invalid.expression := by
  intro invalid statements
  have readFails : Expr.read 8 "größe('é',)" = .error invalid := by decide +kernel
  have compileFails : compileAll 8 statements = .error (.expression "größe" invalid) := by
    decide +kernel
  have ⟨ofRead, ofCompile⟩ := errors_located 8
  exact ⟨readFails, compileFails, (ofRead _ _ readFails).2, (ofCompile _ _ _ compileFails).1⟩

end StreamPlan.Statement
