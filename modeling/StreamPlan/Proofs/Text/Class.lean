import StreamPlan.Text.Class

/-! Which of the character classes have no character in common, and which one is part of another. -/

set_option autoImplicit false

namespace StreamPlan.Text

def CodeRanges.codes (ranges : CodeRanges) : List Nat :=
  ranges.flatMap fun range => List.range' range.1 (range.2 + 1 - range.1)

theorem CodeRanges.mem_codes {ranges : CodeRanges} {code : Nat}
    (member : ranges.contains code = true) : code ∈ ranges.codes := by
  induction ranges with
  | nil => simp [contains] at member
  | cons range rest ih =>
    obtain ⟨first, last⟩ := range
    simp only [codes, List.flatMap_cons, List.mem_append, List.mem_range'_1]
    rw [contains] at member
    split at member
    · cases member
    · rename_i low
      rcases Bool.or_eq_true_iff.mp member with inside | later
      · have := of_decide_eq_true inside
        left
        omega
      · exact Or.inr (ih later)

-- A property of all blanks is a property of some two dozen code points.
theorem of_isBlank {p : Nat → Bool} (all : blankRanges.codes.all p = true) {c : Char}
    (blank : isBlank c = true) : p c.toNat = true :=
  List.all_eq_true.mp all c.toNat (CodeRanges.mem_codes blank)

theorem isBlank_of_ascii {c : Char} (low : 0x20 < c.toNat) (high : c.toNat < 0x85) :
    isBlank c = false := by
  apply Bool.eq_false_iff.mpr
  intro blank
  have outside := of_isBlank (p := fun code => !(0x20 < code && code < 0x85)) (by decide) blank
  simp_all

theorem isBlank_of_isNameChar {c : Char} (name : isNameChar c = true) : isBlank c = false := by
  apply Bool.eq_false_iff.mpr
  intro blank
  have letters := of_isBlank (p := fun code => !alphabeticRanges.contains code)
    (by decide +kernel) blank
  have numbers := of_isBlank (p := fun code => !numberRanges.contains code)
    (by decide +kernel) blank
  have line := of_isBlank (p := fun code => code != '_'.toNat) (by decide) blank
  simp_all [isNameChar]

theorem isBlank_of_isWordChar {c : Char} (word : isWordChar c = true) : isBlank c = false := by
  apply Bool.eq_false_iff.mpr
  intro blank
  have none := of_isBlank (p := fun code =>
      !(alphabeticRanges.contains code || markRanges.contains code ||
        decimalDigitRanges.contains code || connectorRanges.contains code ||
        joinControlRanges.contains code))
    (by decide +kernel) blank
  simp_all [isWordChar]

instance decidableAscending : (ranges : CodeRanges) → Decidable ranges.Ascending
  | [] => .isTrue trivial
  | (first, last) :: rest =>
    have := decidableAscending rest
    inferInstanceAs
      (Decidable (first ≤ last ∧ (∀ next ∈ rest, last < next.1) ∧ CodeRanges.Ascending rest))

/-- Ranges that lie within others have only their codes. -/
theorem CodeRanges.contains_of_within {inner outer : CodeRanges} (ascending : inner.Ascending)
    (ascending' : outer.Ascending)
    (within : ∀ r ∈ inner, ∃ s ∈ outer, s.1 ≤ r.1 ∧ r.2 ≤ s.2) {code : Nat}
    (member : inner.contains code = true) : outer.contains code = true := by
  obtain ⟨r, isRange, low, high⟩ := (contains_iff ascending code).mp member
  obtain ⟨s, isOuter, below, above⟩ := within r isRange
  exact (contains_iff ascending' code).mpr ⟨s, isOuter, Nat.le_trans below low, Nat.le_trans high above⟩

theorem isNameChar_of_decimalDigit {c : Char} (digit : decimalDigitRanges.contains c.toNat = true) :
    isNameChar c = true := by
  have digits : decimalDigitRanges.Ascending := by decide +kernel
  have numbers : numberRanges.Ascending := by decide +kernel
  have within : ∀ r ∈ decimalDigitRanges, ∃ s ∈ numberRanges, s.1 ≤ r.1 ∧ r.2 ≤ s.2 := by
    decide +kernel
  simp [isNameChar, CodeRanges.contains_of_within digits numbers within digit]

end StreamPlan.Text
