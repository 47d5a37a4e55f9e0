import StreamPlan.Proofs.Statement.ErrorPlaces

/-! Lists of statements. The columns of a list are those of its statements, one by one and in order;
blank statements have none, and the first statement that fails decides how the list fails. The name
of a column does not depend on the expression that computes it. -/

set_option autoImplicit false

namespace StreamPlan.Statement

open Text (isAllBlank trim)

variable {limit : Nat} {statement : String}

/-- The text before the first colon, all of it if there is none. -/
def beforeColon (statement : String) : String :=
  String.ofList (statement.toList.takeWhile (· ≠ ':'))

def LacksName (statement : String) : Prop :=
  ':' ∈ statement.toList ∧ isAllBlank (beforeColon statement) = true

theorem beforeColon_of_noColon (noColon : ':' ∉ statement.toList) :
    beforeColon statement = statement := by
  rw [beforeColon, List.takeWhile_eq_self_iff.mpr (ne_colon_of_noColon noColon),
    String.ofList_toList]

theorem HasParts.trim_beforeColon {name body : String} (parts : HasParts statement name body) :
    trim (beforeColon statement) = name := by
  obtain ⟨before, after, whole, noColon, rfl, rfl⟩ := parts
  rw [beforeColon, whole, (takeWhile_colon noColon).1]

theorem mem_trim_colon (hasColon : ':' ∈ statement.toList) : ':' ∈ (trim statement).toList :=
  Text.mem_trim hasColon not_isBlank_colon

theorem Reads.outputName_eq {item : Item} (reads : Reads limit (trim statement) item) :
    item.outputName = trim (beforeColon statement) := by
  cases reads with
  | field noColon =>
    rw [beforeColon_of_noColon (mt mem_trim_colon noColon)]
    rfl
  | derived whole noColon named parsed =>
    exact (hasParts_of_trim ⟨_, _, whole, noColon, rfl, rfl⟩).trim_beforeColon.symm

theorem compile_eq_missingFieldName_iff {text : String} :
    compile limit statement = .error (.missingFieldName text) ↔
      LacksName statement ∧ text = trim statement := by
  constructor
  · intro failed
    cases refuses_of_compile failed with
    | missingFieldName whole noColon unnamed =>
      have parts := hasParts_of_trim ⟨_, _, whole, noColon, rfl, rfl⟩
      have blank : isAllBlank (beforeColon statement) = true := by
        rw [Text.isAllBlank_iff_trim, parts.trim_beforeColon, unnamed]
      have hasColon : ':' ∈ statement.toList := Text.mem_of_mem_trim (by simp [whole])
      exact ⟨⟨hasColon, blank⟩, rfl⟩
  · rintro ⟨⟨hasColon, blank⟩, rfl⟩
    have filled := Text.isAllBlank_eq_false_of_mem hasColon not_isBlank_colon
    obtain ⟨before, after, whole, noColon⟩ := List.eq_append_cons_of_mem (mem_trim_colon hasColon)
    have parts := hasParts_of_trim ⟨before, after, whole, noColon, rfl, rfl⟩
    rw [Text.isAllBlank_iff_trim, parts.trim_beforeColon] at blank
    rw [compile, if_neg (by simp [filled]), compileTrimmed_of_colon whole noColon,
      if_pos (by simpa using blank)]
    rfl

/-- The statements that are not blank are compiled one by one. -/
theorem compileAll_eq_mapM (limit : Nat) (statements : List String) :
    compileAll limit statements = (statements.filter (!isAllBlank ·)).mapM fun statement =>
      compileTrimmed limit (trim statement) := by
  refine filterMapM_eq_mapM_filter (fun statement blank => ?_) (fun statement filled => ?_) statements
  · rw [compile, if_pos (by simpa using blank)]
  · rw [compile, if_neg (by simpa using filled)]

theorem compileAll_append (limit : Nat) (first second : List String) :
    compileAll limit (first ++ second) =
      (compileAll limit first).bind fun items =>
        (compileAll limit second).map fun others => items ++ others := by
  simp only [compileAll_eq_mapM, List.filter_append, List.mapM_append]
  rfl

theorem compileAll_eq_ok_iff {statements : List String} {items : List Item} :
    compileAll limit statements = .ok items ↔
      List.Forall₂ (fun statement item => compile limit statement = .ok (some item))
        (statements.filter (!isAllBlank ·)) items := by
  have filled : ∀ statement ∈ statements.filter (!isAllBlank ·), isAllBlank statement = false := by
    simp
  rw [compileAll_eq_mapM, mapM_eq_ok_iff]
  simp only [compile_eq_some_iff, compileTrimmed_eq_ok_iff]
  rw [List.forall₂_and_left]
  exact (and_iff_right filled).symm

def FirstFailing (limit : Nat) (statements : List String) (statement : String) : Prop :=
  ∃ before after items reason, statements = before ++ statement :: after ∧
    compileAll limit before = .ok items ∧ compile limit statement = .error reason

theorem compileAll_eq_error {before after : List String} {items : List Item}
    {reason : StatementError} (compiled : compileAll limit before = .ok items)
    (failed : compile limit statement = .error reason) :
    compileAll limit (before ++ statement :: after) = .error reason := by
  have rest : compileAll limit (statement :: after) = .error reason := by
    rw [compileAll, List.filterMapM_cons, failed]
    rfl
  rw [compileAll_append, compiled, rest]
  rfl

theorem compileAll_eq_missingFieldName_iff {statements : List String} {text : String} :
    compileAll limit statements = .error (.missingFieldName text) ↔
      ∃ statement, FirstFailing limit statements statement ∧ LacksName statement ∧
        text = trim statement := by
  constructor
  · intro failed
    obtain ⟨before, statement, after, items, rfl, compiled, failed⟩ := filterMapM_eq_error failed
    exact ⟨statement, ⟨before, after, items, _, rfl, compiled, failed⟩,
      compile_eq_missingFieldName_iff.mp failed⟩
  · rintro ⟨statement, ⟨before, after, items, reason, rfl, compiled, -⟩, lacksName, same⟩
    exact compileAll_eq_error compiled (compile_eq_missingFieldName_iff.mpr ⟨lacksName, same⟩)

/-- The columns of two lists one after the other are those of the first and then those of the
second; if one of the lists fails, the failure is that of the first list which does. A list that
compiles has one column for each statement that is not blank, in order, and its name is the trimmed
text before the statement's first colon. A list fails for want of a name exactly when its first
statement that fails has only blanks before its first colon. -/
theorem compileAll_inOrder (limit : Nat) :
    (∀ first second items others, compileAll limit first = .ok items →
      compileAll limit second = .ok others →
        compileAll limit (first ++ second) = .ok (items ++ others)) ∧
    (∀ first second reason, compileAll limit first = .error reason →
      compileAll limit (first ++ second) = .error reason) ∧
    (∀ first second items reason, compileAll limit first = .ok items →
      compileAll limit second = .error reason →
        compileAll limit (first ++ second) = .error reason) ∧
    (∀ statements items, compileAll limit statements = .ok items →
      List.Forall₂ (fun statement item => compile limit statement = .ok (some item))
          (statements.filter (!isAllBlank ·)) items ∧
        items.map (·.outputName) =
          (statements.filter (!isAllBlank ·)).map fun statement => trim (beforeColon statement)) ∧
    ∀ statements text, compileAll limit statements = .error (.missingFieldName text) ↔
      ∃ statement, FirstFailing limit statements statement ∧ LacksName statement ∧
        text = trim statement := by
  refine ⟨?joined, ?firstFails, ?secondFails, ?columns, fun _ _ =>
    compileAll_eq_missingFieldName_iff⟩
  case joined =>
    intro first second items others compiled compiledOthers
    rw [compileAll_append, compiled, compiledOthers]
    rfl
  case firstFails =>
    intro first second reason failed
    rw [compileAll_append, failed]
    rfl
  case secondFails =>
    intro first second items reason compiled failed
    rw [compileAll_append, compiled, failed]
    rfl
  case columns =>
    intro statements items compiled
    have each := compileAll_eq_ok_iff.mp compiled
    refine ⟨each, ?_⟩
    rw [← List.forall₂_eq_eq_eq, List.forall₂_map_left_iff, List.forall₂_map_right_iff]
    refine each.flip.imp fun item statement found => ?_
    exact (compile_eq_some_iff.mp found).2.outputName_eq

/-- Blank statements, a name with blanks around it, a column for a call, and two statements that
fail for different reasons. -/
theorem compileAll_inOrder_parts :
    let first := [" ts ", "", "load : mult(bytes, rate)"]
    let second := ["\t", "id"]
    let failing := [" : now()", "total: sum((1, 2)"]
    let load := Item.derived "load"
      (.call "mult" [.literal (.identifier "bytes"), .literal (.identifier "rate")])
    compileAll 1 (first ++ second) = .ok [.field "ts", load, .field "id"] ∧
      compileAll 1 (failing ++ first) = .error (.missingFieldName ": now()") ∧
      compileAll 1 (first ++ failing) = .error (.missingFieldName ": now()") ∧
      [Item.field "ts", load].map (·.outputName) = ["ts", "load"] ∧
      ∃ statement, FirstFailing 1 failing statement ∧ LacksName statement ∧
        ": now()" = trim statement := by
  intro first second failing load
  have compiled : compileAll 1 first = .ok [.field "ts", load] := by decide +kernel
  have compiledOthers : compileAll 1 second = .ok [.field "id"] := by decide +kernel
  have failed : compileAll 1 failing = .error (.missingFieldName ": now()") := by decide +kernel
  have ⟨joined, firstFails, secondFails, columns, missing⟩ := compileAll_inOrder 1
  exact ⟨joined _ _ _ _ compiled compiledOthers, firstFails _ _ _ failed,
    secondFails _ _ _ _ compiled failed, (columns _ _ compiled).2.trans (by decide +kernel),
    (missing _ _).mp failed⟩

end StreamPlan.Statement
