set_option autoImplicit false

namespace StreamPlan.Text

variable {α : Type} {p : α → Bool} {front rest : List α}

/-- A member of two lists together is in the first or in the second of them. -/
theorem exists_of_append_eq {first second back : List α} {c : α}
    (whole : first ++ second = front ++ c :: back) :
    (∃ more, first = front ++ c :: more ∧ back = more ++ second) ∨
      ∃ between, front = first ++ between ∧ second = between ++ c :: back := by
  rcases List.append_eq_append_iff.mp whole with ⟨between, rfl, later⟩ | ⟨within, rfl, later⟩
  · exact Or.inr ⟨between, rfl, later⟩
  · cases within with
    | nil => exact Or.inr ⟨[], by simp, later.symm⟩
    | cons d more =>
      obtain ⟨rfl, rfl⟩ := List.cons.inj later
      exact Or.inl ⟨more, rfl, rfl⟩

theorem takeWhile_append_stop (all : ∀ c ∈ front, p c = true)
    (stop : ∀ c ∈ rest.head?, p c = false) : (front ++ rest).takeWhile p = front := by
  rw [List.takeWhile_append_of_pos all]
  cases rest with
  | nil => simp
  | cons c rest => simp [stop c rfl]

theorem dropWhile_eq_self (stop : ∀ c ∈ rest.head?, p c = false) : rest.dropWhile p = rest := by
  cases rest with
  | nil => rfl
  | cons c rest => simp [stop c rfl]

theorem head?_dropWhile (p : α → Bool) (cs : List α) :
    ∀ c ∈ (cs.dropWhile p).head?, p c = false := by
  intro c first
  have stopped := List.head?_dropWhile_not p cs
  rwa [Option.mem_def.mp first] at stopped

theorem dropWhile_append_stop (all : ∀ c ∈ front, p c = true)
    (stop : ∀ c ∈ rest.head?, p c = false) : (front ++ rest).dropWhile p = rest := by
  rw [List.dropWhile_append_of_pos all]
  exact dropWhile_eq_self stop

end StreamPlan.Text
