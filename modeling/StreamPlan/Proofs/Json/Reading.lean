import StreamPlan.Json.Reader
import StreamPlan.Proofs.Json.Writing

set_option autoImplicit false

namespace StreamPlan.Json

namespace State

variable {state : State} {frames : List Frame}

inductive Awaits : State → List Frame → Prop where
  | value (frames : List Frame) : Awaits (.expectValue frames) frames
  | first (frames : List Frame) : Awaits (.arrayStart frames) (.array [] :: frames)

theorem Awaits.step {token : Token} (awaits : Awaits state frames)
    (begins : token ≠ .closeBracket) : state.step token = start frames token := by
  cases awaits with
  | value frames => rfl
  | first frames => cases token <;> first | rfl | exact absurd rfl begins

theorem run_cons {token : Token} {next : State} (stepped : state.step token = some next)
    (rest : List Token) :
    (token :: rest).foldlM State.step state = rest.foldlM State.step next := by
  rw [List.foldlM_cons, stepped]
  rfl

/-- Reading the value's tokens where one is awaited leads on with the value done. -/
def ReadsAs (value : Value) : Prop :=
  ∀ {state : State} {frames : List Frame} (rest : List Token), Awaits state frames →
    (value.tokens ++ rest).foldlM State.step state = rest.foldlM State.step (.done value frames)

theorem run_itemTokens {items : List Value} (reads : ∀ item ∈ items, ReadsAs item) (value : Value)
    (before : List Value) (rest : List Token) :
    (Value.itemTokens items ++ rest).foldlM State.step (.done value (.array before :: frames)) =
      rest.foldlM State.step (.done (.array ((value :: before).reverse ++ items)) frames) := by
  induction items generalizing value before with
  | nil =>
    rw [Value.itemTokens, List.append_nil]
    exact run_cons rfl rest
  | cons item items ih =>
    obtain ⟨first, others⟩ := List.forall_mem_cons.mp reads
    rw [Value.itemTokens, List.cons_append, List.append_assoc]
    rw [run_cons rfl, first _ (.value _), ih others]
    simp

theorem run_memberTokens {members : List (Text × Value)}
    (reads : ∀ member ∈ members, ReadsAs member.2) (name : Text) (value : Value)
    (before : List (Text × Value)) (rest : List Token) :
    (Value.memberTokens members ++ rest).foldlM State.step
        (.done value (.object before name :: frames)) =
      rest.foldlM State.step
        (.done (.object (((name, value) :: before).reverse ++ members)) frames) := by
  induction members generalizing name value before with
  | nil =>
    rw [Value.memberTokens, List.append_nil]
    exact run_cons rfl rest
  | cons member members ih =>
    obtain ⟨first, others⟩ := List.forall_mem_cons.mp reads
    rw [Value.memberTokens, List.cons_append, List.cons_append, List.cons_append,
      List.append_assoc]
    rw [run_cons rfl, run_cons rfl, run_cons rfl, first _ (.value _), ih others]
    simp

theorem readsAs {value : Value} (written : value.IsWritten) : ReadsAs value := by
  induction written with
  | null =>
    intro state frames rest awaits
    exact run_cons (awaits.step (by simp)) rest
  | bool value =>
    intro state frames rest awaits
    exact run_cons (awaits.step (by simp)) rest
  | number number =>
    intro state frames rest awaits
    exact run_cons (awaits.step (by simp)) rest
  | text s =>
    intro state frames rest awaits
    exact run_cons (awaits.step (by simp)) rest
  | @array items written ih =>
    intro state frames rest awaits
    cases items with
    | nil =>
      have opened : state.step .openBracket = some (.arrayStart frames) := awaits.step (by simp)
      rw [Value.tokens, List.cons_append, run_cons opened]
      exact run_cons rfl rest
    | cons item items =>
      obtain ⟨first, others⟩ := List.forall_mem_cons.mp ih
      have opened : state.step .openBracket = some (.arrayStart frames) := awaits.step (by simp)
      rw [Value.tokens, List.cons_append, List.append_assoc, run_cons opened,
        first _ (.first frames), run_itemTokens others]
      rfl
  | @object members named written ih =>
    intro state frames rest awaits
    have opened : state.step .openBrace = some (.objectStart frames) := awaits.step (by simp)
    cases members with
    | nil =>
      rw [Value.tokens, List.cons_append, run_cons opened]
      exact run_cons rfl rest
    | cons member members =>
      obtain ⟨first, others⟩ := List.forall_mem_cons.mp ih
      rw [Value.tokens, List.cons_append, List.cons_append, List.cons_append, List.append_assoc,
        run_cons opened, run_cons rfl, run_cons rfl, first _ (.value _), run_memberTokens others]
      rfl

end State

namespace Value

/-- Text with the tokens of a value is read as the value. -/
theorem read?_of_writes {value : Value} (written : value.IsWritten) {text : String}
    (writes : Token.Writes text.toList value.tokens) : read? text = some value := by
  have ran := State.readsAs written [] (.value [])
  rw [List.append_nil] at ran
  rw [read?, writes.scan, List.reverse_nil, List.nil_append, Option.bind_some, ofTokens?, ran]
  rfl

theorem read?_compact {value : Value} (written : value.IsWritten) :
    read? value.compact = some value := by
  apply read?_of_writes written
  have writes := written.writesCompact stops_nil .nil
  simpa [compact] using writes

theorem read?_pretty {value : Value} (written : value.IsWritten) (level : Nat) :
    read? (value.pretty level) = some value := by
  apply read?_of_writes written
  have writes := written.writesPretty level stops_nil .nil
  simpa using writes

end Value
end StreamPlan.Json
