import StreamPlan.Statement.Compile
import StreamPlan.Proofs.Except
import StreamPlan.Proofs.Expr.Parsing
import StreamPlan.Proofs.Text.Split
import StreamPlan.Proofs.Text.Trim

/-! What a statement is when it compiles: a field name without a colon, or a name and a text that is
parsed, with a colon between them. It is refused when it has a colon and lacks the name, or when the
text is refused. -/

set_option autoImplicit false

namespace StreamPlan.Statement

open Text (IsTrimmed)

/-- The first colon parts a derived column's name from its body. -/
inductive Reads (limit : Nat) (statement : String) : Item → Prop where
  | field (noColon : ':' ∉ statement.toList) : Reads limit statement (.field statement)
  | derived {before after : List Char} {body : Expr}
      (whole : statement.toList = before ++ ':' :: after) (noColon : ':' ∉ before)
      (named : (Text.trim (String.ofList before)).toList ≠ [])
      (parsed : Expr.parse limit (Text.trim (String.ofList after)) = .ok body) :
      Reads limit statement (.derived (Text.trim (String.ofList before)) body)

/-- The failures of a statement, with the same first colon. -/
inductive Refuses (limit : Nat) (statement : String) : StatementError → Prop where
  | missingFieldName {before after : List Char}
      (whole : statement.toList = before ++ ':' :: after) (noColon : ':' ∉ before)
      (unnamed : (Text.trim (String.ofList before)).toList = []) :
      Refuses limit statement (.missingFieldName statement)
  | expression {before after : List Char} {invalid : InvalidExpr}
      (whole : statement.toList = before ++ ':' :: after) (noColon : ':' ∉ before)
      (named : (Text.trim (String.ofList before)).toList ≠ [])
      (failed : Expr.read limit (Text.trim (String.ofList after)) = .error invalid) :
      Refuses limit statement (.expression (Text.trim (String.ofList before)) invalid)

theorem not_isBlank_colon : Text.isBlank ':' = false := by decide +kernel

theorem ne_colon_of_noColon {cs : List Char} (noColon : ':' ∉ cs) :
    ∀ c ∈ cs, decide (c ≠ ':') = true := by
  intro c member
  rw [decide_eq_true_eq]
  rintro rfl
  exact noColon member

theorem takeWhile_colon {before after : List Char} (noColon : ':' ∉ before) :
    (before ++ ':' :: after).takeWhile (· ≠ ':') = before ∧
      (before ++ ':' :: after).dropWhile (· ≠ ':') = ':' :: after := by
  have inside := ne_colon_of_noColon noColon
  have colon : ∀ c ∈ (':' :: after).head?, decide (c ≠ ':') = false := by simp
  exact ⟨Text.takeWhile_append_stop inside colon, Text.dropWhile_append_stop inside colon⟩

theorem compileTrimmed_of_noColon {limit : Nat} {statement : String}
    (noColon : ':' ∉ statement.toList) :
    compileTrimmed limit statement = .ok (.field statement) := by
  rw [compileTrimmed, List.dropWhile_eq_nil_iff.mpr (ne_colon_of_noColon noColon)]

theorem compileTrimmed_of_colon {limit : Nat} {statement : String} {before after : List Char}
    (whole : statement.toList = before ++ ':' :: after) (noColon : ':' ∉ before) :
    compileTrimmed limit statement =
      if (Text.trim (String.ofList before)).isEmpty then .error (.missingFieldName statement)
      else ((Expr.read limit (Text.trim (String.ofList after))).map
        (.derived (Text.trim (String.ofList before)))).mapError
          (.expression (Text.trim (String.ofList before))) := by
  obtain ⟨front, rest⟩ := @takeWhile_colon before after noColon
  simp only [compileTrimmed, whole, front, rest]
  generalize Text.trim (String.ofList before) = name
  cases Expr.read limit (Text.trim (String.ofList after)) <;> rfl

/-- A statement has its column, or a failure. -/
theorem compileTrimmed_cases (limit : Nat) (statement : String) :
    (∃ item, compileTrimmed limit statement = .ok item ∧ Reads limit statement item) ∨
      ∃ reason, compileTrimmed limit statement = .error reason ∧
        Refuses limit statement reason := by
  by_cases hasColon : ':' ∈ statement.toList
  · obtain ⟨before, after, whole, noColon⟩ := List.eq_append_cons_of_mem hasColon
    rw [compileTrimmed_of_colon whole noColon]
    by_cases named : (Text.trim (String.ofList before)).toList = []
    · rw [if_pos (by simpa using named)]
      exact Or.inr ⟨_, rfl, .missingFieldName whole noColon named⟩
    · rw [if_neg (by simpa using named)]
      cases read : Expr.read limit (Text.trim (String.ofList after)) with
      | ok node =>
        have parsed := mapError_eq_ok_iff.mp read
        exact Or.inl ⟨_, rfl, .derived whole noColon named parsed⟩
      | error invalid => exact Or.inr ⟨_, rfl, .expression whole noColon named read⟩
  · exact Or.inl ⟨_, compileTrimmed_of_noColon hasColon, .field hasColon⟩

theorem compileTrimmed_eq_ok_iff {limit : Nat} {statement : String} {item : Item} :
    compileTrimmed limit statement = .ok item ↔ Reads limit statement item := by
  constructor
  · intro compiled
    obtain ⟨item', same, reads⟩ | ⟨reason, failed, -⟩ := compileTrimmed_cases limit statement
    · rw [compiled] at same
      cases same
      exact reads
    · rw [compiled] at failed
      cases failed
  · rintro (noColon | ⟨whole, noColon, named, parsed⟩)
    · exact compileTrimmed_of_noColon noColon
    · rw [compileTrimmed_of_colon whole noColon, if_neg (by simpa using named), Expr.read, parsed]
      rfl

theorem refuses_of_compileTrimmed {limit : Nat} {statement : String} {reason : StatementError}
    (failed : compileTrimmed limit statement = .error reason) :
    Refuses limit statement reason := by
  obtain ⟨item, compiled, -⟩ | ⟨reason', same, refuses⟩ := compileTrimmed_cases limit statement
  · rw [failed] at compiled
    cases compiled
  · rw [failed] at same
    cases same
    exact refuses

theorem compile_eq_some_iff {limit : Nat} {statement : String} {item : Item} :
    compile limit statement = .ok (some item) ↔
      Text.isAllBlank statement = false ∧ Reads limit (Text.trim statement) item := by
  unfold compile
  split <;> simp_all [map_eq_ok_iff, compileTrimmed_eq_ok_iff]

theorem refuses_of_compile {limit : Nat} {statement : String} {reason : StatementError}
    (failed : compile limit statement = .error reason) :
    Refuses limit (Text.trim statement) reason := by
  unfold compile at failed
  split at failed
  · cases failed
  · exact refuses_of_compileTrimmed (map_eq_error_iff.mp failed)

theorem exists_parse_of_compile {limit : Nat} {statement name : String} {body : Expr}
    (compiled : compile limit statement = .ok (some (.derived name body))) :
    ∃ text, Expr.parse limit text = .ok body := by
  cases (compile_eq_some_iff.mp compiled).2 with
  | derived whole noColon named parsed => exact ⟨_, parsed⟩

theorem depth_le_of_compileAll {limit : Nat} {statements : List String} {items : List Item}
    (compiled : compileAll limit statements = .ok items) {name : String} {body : Expr}
    (member : .derived name body ∈ items) : body.depth ≤ limit := by
  obtain ⟨statement, -, found⟩ := exists_of_mem_filterMapM compiled member
  obtain ⟨text, parsed⟩ := exists_parse_of_compile found
  exact (Expr.parse_eq_ok_iff.mp parsed).2

theorem compile_field {limit : Nat} {name : String} (named : name.toList ≠ [])
    (trimmed : IsTrimmed name.toList) (noColon : ':' ∉ name.toList) :
    compile limit name = .ok (some (.field name)) := by
  rw [compile_eq_some_iff, trimmed.trim_eq]
  exact ⟨trimmed.isAllBlank_eq_false named, .field noColon⟩

theorem compile_derived {limit : Nat} {name body : String} {node : Expr}
    (named : name.toList ≠ []) (nameTrimmed : IsTrimmed name.toList) (noColon : ':' ∉ name.toList)
    (filled : body.toList ≠ []) (bodyTrimmed : IsTrimmed body.toList)
    (parsed : Expr.parse limit body = .ok node) :
    compile limit (name ++ ": " ++ body) = .ok (some (.derived name node)) := by
  have text : (name ++ ": " ++ body).toList = name.toList ++ ':' :: ' ' :: body.toList := by
    simp
  have trimmed : IsTrimmed (name ++ ": " ++ body).toList := by
    rw [text]
    constructor
    · intro c first
      apply nameTrimmed.1 c
      rwa [List.head?_append_of_ne_nil _ named] at first
    · intro c last
      apply bodyTrimmed.2 c
      rwa [List.append_cons, List.append_cons, List.getLast?_append_of_ne_nil _ filled] at last
  have notBlank := trimmed.isAllBlank_eq_false (by simp [text])
  have nameText : Text.trim (String.ofList name.toList) = name := by
    rw [String.ofList_toList, nameTrimmed.trim_eq]
  have bodyText : Text.trim (String.ofList (' ' :: body.toList)) = body := by
    rw [Text.trim_cons_blank (by decide +kernel), String.ofList_toList, bodyTrimmed.trim_eq]
  have reads := @Reads.derived limit (name ++ ": " ++ body) _ _ node text noColon
    (by rwa [nameText]) (by rwa [bodyText])
  rw [nameText] at reads
  rw [compile_eq_some_iff, trimmed.trim_eq]
  exact ⟨notBlank, reads⟩

end StreamPlan.Statement
