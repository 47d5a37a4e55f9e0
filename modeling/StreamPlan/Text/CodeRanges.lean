/-! Sets of code points, given as closed intervals in ascending order. A property of the
Unicode standard is a value of this type in a module of its own. -/

set_option autoImplicit false

namespace StreamPlan.Text

/-- Closed intervals of code points, ascending and disjoint. -/
abbrev CodeRanges := List (Nat × Nat)

def CodeRanges.contains : CodeRanges → Nat → Bool
  | [], _ => false
  | (first, last) :: rest, code =>
    if code < first then false else decide (code ≤ last) || contains rest code

def CodeRanges.Ascending : CodeRanges → Prop
  | [] => True
  | (first, last) :: rest =>
    first ≤ last ∧ (∀ next ∈ rest, last < next.1) ∧ Ascending rest

theorem CodeRanges.contains_iff {ranges : CodeRanges} (ascending : ranges.Ascending)
    (code : Nat) : ranges.contains code = true ↔ ∃ r ∈ ranges, r.1 ≤ code ∧ code ≤ r.2 := by
  induction ranges with
  | nil => simp [contains]
  | cons head rest ih =>
    obtain ⟨first, last⟩ := head
    obtain ⟨ordered, later, restAscending⟩ := ascending
    have split_or : (∃ r ∈ (first, last) :: rest, r.1 ≤ code ∧ code ≤ r.2) ↔
        (first ≤ code ∧ code ≤ last) ∨ ∃ r ∈ rest, r.1 ≤ code ∧ code ≤ r.2 := by
      simp [List.mem_cons, or_and_right, exists_or]
    rw [split_or]
    by_cases low : code < first
    · have beyond : ¬ ∃ r ∈ rest, r.1 ≤ code ∧ code ≤ r.2 := by
        rintro ⟨r, mem, bounds⟩
        have := later r mem
        omega
      simp only [contains, low, if_true, Bool.false_eq_true, beyond, or_false, false_iff]
      omega
    · simp only [contains, low, if_false, Bool.or_eq_true, decide_eq_true_eq, ih restAscending]
      have : first ≤ code := by omega
      simp [this]

end StreamPlan.Text
