import StreamPlan.Proofs.Aggregation.Entry

/-! Calls inside a text, and the search for them from the left. At most one call begins at a place,
so the search finds the same calls whatever it tries first. -/

set_option autoImplicit false

namespace StreamPlan.Aggregation

def BeginsCall (cs : List Char) : Prop :=
  ∃ function field call, IsCall function field call ∧ call <+: cs

def HasCall (cs : List Char) : Prop :=
  ∃ function field call, IsCall function field call ∧ call <:+: cs

theorem leadingCall?_isSome_iff {cs : List Char} :
    (leadingCall? cs).isSome = true ↔ BeginsCall cs := by
  constructor
  · intro found
    obtain ⟨⟨function, field, rest⟩, found⟩ := Option.isSome_iff_exists.mp found
    obtain ⟨call, isCall, rfl⟩ := isCall_of_leadingCall? found
    exact ⟨_, _, call, isCall, List.prefix_append call rest⟩
  · rintro ⟨function, field, call, isCall, rest, rfl⟩
    rw [isCall.leadingCall? rest]
    rfl

theorem IsCall.ne_nil {function field call : List Char} (isCall : IsCall function field call) :
    call ≠ [] := by
  cases isCall with
  | intro isFunction => simp [isFunction.nonempty]

theorem not_hasCall_nil : ¬ HasCall [] := by
  rintro ⟨function, field, call, isCall, inside⟩
  exact isCall.ne_nil (List.infix_nil.mp inside)

theorem hasCall_cons_iff {c : Char} {rest : List Char} :
    HasCall (c :: rest) ↔ BeginsCall (c :: rest) ∨ HasCall rest := by
  simp only [HasCall, BeginsCall, List.infix_cons_iff, and_or_left, exists_or]

theorem containsCall_iff {cs : List Char} : containsCall cs = true ↔ HasCall cs := by
  induction cs with
  | nil => exact iff_of_false Bool.false_ne_true not_hasCall_nil
  | cons c rest ih =>
    rw [containsCall, Bool.or_eq_true, leadingCall?_isSome_iff, ih, hasCall_cons_iff]

theorem IsCall.beginsCall {function field call : List Char} (isCall : IsCall function field call)
    (rest : List Char) : BeginsCall (call ++ rest) :=
  ⟨function, field, call, isCall, List.prefix_append call rest⟩

theorem IsCall.hasCall {function field call : List Char} (isCall : IsCall function field call)
    (skipped rest : List Char) : HasCall (skipped ++ (call ++ rest)) :=
  ⟨function, field, call, isCall, List.infix_append' skipped call rest⟩

/-- What a text begins with is one call at most. -/
theorem IsCall.unique {function field call rest function' field' call' rest' : List Char}
    (isCall : IsCall function field call) (isCall' : IsCall function' field' call')
    (same : call ++ rest = call' ++ rest') :
    function = function' ∧ field = field' ∧ call = call' ∧ rest = rest' := by
  have found := isCall.leadingCall? rest
  rw [same, isCall'.leadingCall? rest'] at found
  simp only [Option.some.injEq, Prod.mk.injEq, String.ofList_inj] at found
  obtain ⟨rfl, rfl, rfl⟩ := found
  exact ⟨rfl, rfl, List.append_cancel_right same, rfl⟩

def SkipsNone (skipped following : List Char) : Prop :=
  ∀ back, back <:+ skipped → back ≠ [] → ¬ BeginsCall (back ++ following)

structure FoundCall where
  whole : String
  function : String
  field : String

/-- The calls that a search from the left finds: the one that begins first, and then those that are
found behind its end. -/
inductive Finds : List Char → List FoundCall → Prop where
  | none {cs : List Char} (absent : ¬ HasCall cs) : Finds cs []
  | next {skipped rest : List Char} {found : FoundCall} {later : List FoundCall}
      (isCall : IsCall found.function.toList found.field.toList found.whole.toList)
      (first : SkipsNone skipped (found.whole.toList ++ rest)) (others : Finds rest later) :
      Finds (skipped ++ (found.whole.toList ++ rest)) (found :: later)

theorem skipsNone_nil (following : List Char) : SkipsNone [] following :=
  fun _ suffix nonempty => absurd (List.suffix_nil.mp suffix) nonempty

theorem exists_first {cs : List Char} (hasCall : HasCall cs) :
    ∃ (skipped : List Char) (found : FoundCall) (rest : List Char),
      cs = skipped ++ (found.whole.toList ++ rest) ∧
      IsCall found.function.toList found.field.toList found.whole.toList ∧
      SkipsNone skipped (found.whole.toList ++ rest) := by
  induction cs with
  | nil => exact absurd hasCall not_hasCall_nil
  | cons c cs ih =>
    by_cases begins : BeginsCall (c :: cs)
    · obtain ⟨function, field, call, isCall, rest, whole⟩ := begins
      refine ⟨[], ⟨String.ofList call, String.ofList function, String.ofList field⟩, rest, ?_, ?_,
        skipsNone_nil _⟩
      · simpa using whole.symm
      · simpa using isCall
    · obtain ⟨skipped, found, rest, rfl, isCall, first⟩ :=
        ih ((hasCall_cons_iff.mp hasCall).resolve_left begins)
      refine ⟨c :: skipped, found, rest, by simp, isCall, fun back suffix nonempty => ?_⟩
      rcases List.suffix_cons_iff.mp suffix with rfl | inside
      · simpa using begins
      · exact first back inside nonempty

theorem exists_finds (cs : List Char) : ∃ found, Finds cs found := by
  induction length : cs.length using Nat.strong_induction_on generalizing cs with
  | h n ih =>
    by_cases hasCall : HasCall cs
    · obtain ⟨skipped, call, rest, rfl, isCall, first⟩ := exists_first hasCall
      have filled := List.length_pos_of_ne_nil isCall.ne_nil
      have shorter : rest.length < n := by
        simp only [List.length_append] at length
        omega
      obtain ⟨later, others⟩ := ih rest.length shorter rest rfl
      exact ⟨call :: later, .next isCall first others⟩
    · exact ⟨[], .none hasCall⟩

-- Of two calls that are found, neither begins in what was skipped before the other.
theorem skipped_unique {skipped call rest skipped' call' rest' : List Char}
    (begins : BeginsCall (call ++ rest)) (begins' : BeginsCall (call' ++ rest'))
    (first : SkipsNone skipped (call ++ rest)) (first' : SkipsNone skipped' (call' ++ rest'))
    (same : skipped ++ (call ++ rest) = skipped' ++ (call' ++ rest')) : skipped = skipped' := by
  obtain ⟨back, rfl, behind⟩ | ⟨back, rfl, behind⟩ := List.append_eq_append_iff.mp same
  · by_cases empty : back = []
    · rw [empty, List.append_nil]
    · rw [behind] at begins
      exact absurd begins (first' back (List.suffix_append skipped back) empty)
  · by_cases empty : back = []
    · rw [empty, List.append_nil]
    · rw [behind] at begins'
      exact absurd begins' (first back (List.suffix_append skipped' back) empty)

theorem Finds.unique {cs : List Char} {found found' : List FoundCall} (finds : Finds cs found)
    (finds' : Finds cs found') : found = found' := by
  induction finds generalizing found' with
  | none absent =>
    cases finds' with
    | none => rfl
    | next isCall' => exact absurd (isCall'.hasCall _ _) absent
  | @next skipped rest call later isCall first others ih =>
    generalize same : skipped ++ (call.whole.toList ++ rest) = cs at finds'
    cases finds' with
    | none absent => exact absurd (same ▸ isCall.hasCall skipped rest) absent
    | @next skipped' rest' call' later' isCall' first' others' =>
      have skippedSame := skipped_unique (isCall.beginsCall rest) (isCall'.beginsCall rest')
        first first' same
      rw [skippedSame] at same
      obtain ⟨function, field, whole, rfl⟩ := isCall.unique isCall' (List.append_cancel_left same)
      obtain rfl : call = call' := by
        cases call
        cases call'
        simp_all [String.toList_inj]
      rw [ih others']

/-- In a text that is a call this call is found. -/
theorem IsCall.finds {entry function field : String}
    (isCall : IsCall function.toList field.toList entry.toList) :
    Finds entry.toList [⟨entry, function, field⟩] := by
  have finds := @Finds.next [] [] ⟨entry, function, field⟩ [] isCall (skipsNone_nil _)
    (.none not_hasCall_nil)
  rwa [List.nil_append, List.append_nil] at finds

end StreamPlan.Aggregation
