import Mathlib.Data.List.Forall2

set_option autoImplicit false

namespace StreamPlan

variable {α β ε δ : Type}

theorem bind_eq_ok_iff {x : Except ε α} {f : α → Except ε β} {result : β} :
    (x >>= f) = .ok result ↔ ∃ a, x = .ok a ∧ f a = .ok result := by
  cases x <;> simp [bind, Except.bind]

theorem bind_eq_error_iff {x : Except ε α} {f : α → Except ε β} {reason : ε} :
    (x >>= f) = .error reason ↔ x = .error reason ∨ ∃ a, x = .ok a ∧ f a = .error reason := by
  cases x <;> simp [bind, Except.bind]

theorem map_eq_ok_iff {x : Except ε α} {f : α → β} {result : β} :
    x.map f = .ok result ↔ ∃ a, x = .ok a ∧ f a = result := by
  cases x <;> simp [Except.map]

theorem map_eq_error_iff {x : Except ε α} {f : α → β} {reason : ε} :
    x.map f = .error reason ↔ x = .error reason := by
  cases x <;> simp [Except.map]

theorem mapError_eq_ok_iff {x : Except ε α} {f : ε → δ} {result : α} :
    x.mapError f = .ok result ↔ x = .ok result := by
  cases x <;> simp [Except.mapError]

theorem mapError_eq_error_iff {x : Except ε α} {f : ε → δ} {reason : δ} :
    x.mapError f = .error reason ↔ ∃ cause, x = .error cause ∧ f cause = reason := by
  cases x <;> simp [Except.mapError]

theorem mapM_eq_ok_iff {f : α → Except ε β} {xs : List α} {ys : List β} :
    xs.mapM f = .ok ys ↔ List.Forall₂ (fun x y => f x = .ok y) xs ys := by
  induction xs generalizing ys with
  | nil => simp [pure, Except.pure, eq_comm]
  | cons x rest ih =>
    rw [List.mapM_cons, List.forall₂_cons_left_iff]
    simp only [bind_eq_ok_iff, ih]
    constructor
    · rintro ⟨y, first, ys, others, same⟩
      cases same
      exact ⟨y, ys, first, others, rfl⟩
    · rintro ⟨y, ys, first, others, rfl⟩
      exact ⟨y, first, ys, others, rfl⟩

/-- A list is not mapped exactly if one of its elements fails behind others that are mapped. -/
theorem mapM_eq_error_iff {f : α → Except ε β} {xs : List α} {reason : ε} :
    xs.mapM f = .error reason ↔ ∃ before x after ys, xs = before ++ x :: after ∧
      List.Forall₂ (fun x y => f x = .ok y) before ys ∧ f x = .error reason := by
  constructor
  · intro failed
    induction xs with
    | nil => cases failed
    | cons x rest ih =>
      rw [List.mapM_cons, bind_eq_error_iff] at failed
      rcases failed with failed | ⟨y, first, failed⟩
      · exact ⟨[], x, rest, [], rfl, .nil, failed⟩
      · obtain failed | ⟨ys, -, impossible⟩ := bind_eq_error_iff.mp failed
        · obtain ⟨before, x', after, ys, rfl, mapped, failed⟩ := ih failed
          exact ⟨x :: before, x', after, y :: ys, rfl, .cons first mapped, failed⟩
        · cases impossible
  · rintro ⟨before, x, after, ys, rfl, mapped, failed⟩
    rw [List.mapM_append, mapM_eq_ok_iff.mpr mapped, List.mapM_cons, failed]
    rfl

theorem exists_mapM_eq_error_iff {f : α → Except ε β} {xs : List α} :
    (∃ reason, xs.mapM f = .error reason) ↔ ∃ x ∈ xs, ∃ reason, f x = .error reason := by
  constructor
  · rintro ⟨reason, failed⟩
    obtain ⟨before, x, after, ys, rfl, -, failed⟩ := mapM_eq_error_iff.mp failed
    exact ⟨x, by simp, reason, failed⟩
  · rintro ⟨x, member, reason, failed⟩
    obtain ⟨before, after, rfl⟩ := List.append_of_mem member
    rw [List.mapM_append, List.mapM_cons, failed]
    cases before.mapM f with
    | error first => exact ⟨first, rfl⟩
    | ok => exact ⟨reason, rfl⟩

theorem exists_of_mem_filterMapM {f : α → Except ε (Option β)} {xs : List α} {ys : List β}
    (mapped : xs.filterMapM f = .ok ys) {y : β} (member : y ∈ ys) :
    ∃ x ∈ xs, f x = .ok (some y) := by
  induction xs generalizing ys with
  | nil =>
    cases mapped
    cases member
  | cons x rest ih =>
    rw [List.filterMapM_cons, bind_eq_ok_iff] at mapped
    obtain ⟨first, found, others⟩ := mapped
    cases first with
    | none =>
      obtain ⟨x', inside, found⟩ := ih others member
      exact ⟨x', List.mem_cons_of_mem x inside, found⟩
    | some y' =>
      simp only [bind_eq_ok_iff] at others
      obtain ⟨ys', mapped, same⟩ := others
      cases same
      rcases List.mem_cons.mp member with rfl | later
      · exact ⟨x, List.mem_cons_self, found⟩
      · obtain ⟨x', inside, found⟩ := ih mapped later
        exact ⟨x', List.mem_cons_of_mem x inside, found⟩

/-- Where it is known beforehand what gives nothing, the rest is mapped one by one. -/
theorem filterMapM_eq_mapM_filter {f : α → Except ε (Option β)} {g : α → Except ε β}
    {keeps : α → Bool} (skipped : ∀ x, keeps x = false → f x = .ok none)
    (kept : ∀ x, keeps x = true → f x = (g x).map some) (xs : List α) :
    xs.filterMapM f = (xs.filter keeps).mapM g := by
  induction xs with
  | nil => rfl
  | cons x rest ih =>
    rw [List.filterMapM_cons, ih]
    cases isKept : keeps x with
    | false =>
      rw [skipped x isKept, List.filter_cons_of_neg (by simp [isKept])]
      rfl
    | true =>
      rw [kept x isKept, List.filter_cons_of_pos isKept, List.mapM_cons]
      cases g x <;> rfl

/-- A list that is not mapped has a first element that fails. -/
theorem filterMapM_eq_error {f : α → Except ε (Option β)} {xs : List α} {reason : ε}
    (failed : xs.filterMapM f = .error reason) :
    ∃ before x after ys, xs = before ++ x :: after ∧ before.filterMapM f = .ok ys ∧
      f x = .error reason := by
  induction xs with
  | nil => cases failed
  | cons x rest ih =>
    rw [List.filterMapM_cons] at failed
    cases first : f x with
    | error reason' =>
      rw [first] at failed
      cases failed
      exact ⟨[], x, rest, [], rfl, rfl, first⟩
    | ok found =>
      -- what the first element gives does not matter to the rest
      have failedRest : rest.filterMapM f = .error reason := by
        rw [first] at failed
        cases others : rest.filterMapM f with
        | error reason' =>
          rw [others] at failed
          cases found <;> exact failed
        | ok ys =>
          rw [others] at failed
          cases found <;> cases failed
      obtain ⟨before, y, after, ys, rfl, mapped, failed⟩ := ih failedRest
      refine ⟨x :: before, y, after, found.toList ++ ys, rfl, ?_, failed⟩
      rw [List.filterMapM_cons, first, mapped]
      cases found <;> rfl

theorem filterMapM_map_eq_ok {f : α → Except ε (Option β)} {write : β → α} {ys : List β}
    (reads : ∀ y ∈ ys, f (write y) = .ok (some y)) : (ys.map write).filterMapM f = .ok ys := by
  induction ys with
  | nil => rfl
  | cons y rest ih =>
    obtain ⟨readsFirst, readsRest⟩ := List.forall_mem_cons.mp reads
    rw [List.map_cons, List.filterMapM_cons, readsFirst, ih readsRest]
    rfl

/-- A fold that fails does so at one element, with what it has made of those before. -/
theorem foldlM_eq_error {f : β → α → Except ε β} {xs : List α} {start : β} {reason : ε}
    (failed : xs.foldlM f start = .error reason) :
    ∃ before x after middle, xs = before ++ x :: after ∧ before.foldlM f start = .ok middle ∧
      f middle x = .error reason := by
  induction xs generalizing start with
  | nil => cases failed
  | cons x rest ih =>
    rw [List.foldlM_cons] at failed
    cases first : f start x with
    | error reason' =>
      rw [first] at failed
      cases failed
      exact ⟨[], x, rest, start, rfl, rfl, first⟩
    | ok next =>
      rw [first] at failed
      obtain ⟨before, y, after, middle, rfl, folded, failed⟩ := ih failed
      refine ⟨x :: before, y, after, middle, rfl, ?_, failed⟩
      rw [List.foldlM_cons, first]
      exact folded

end StreamPlan
