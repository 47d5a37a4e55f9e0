import Mathlib.Algebra.Order.Field.Rat
import Mathlib.Tactic.NormNum
import StreamPlan.Proofs.Decimal.Numeral

/-! The grammar of integers and numerals, as relations between a text and what it says. Reading
takes exactly the texts of the grammar. -/

set_option autoImplicit false

namespace StreamPlan.Numeral

open Text (takeWhile_append_stop dropWhile_append_stop)

inductive IsSign : List Char → Bool → Prop where
  | none : IsSign [] false
  | plus : IsSign ['+'] false
  | minus : IsSign ['-'] true

structure AreDigits (digits : List Char) : Prop where
  nonempty : digits ≠ []
  all : ∀ c ∈ digits, c.isDigit = true

inductive IsInteger : List Char → Int → Prop where
  | signed {mark digits : List Char} {negative : Bool} (sign : IsSign mark negative)
      (areDigits : AreDigits digits) : IsInteger (mark ++ digits) (signed negative (natOf digits))

/-- Digits with at most one point; all digits before the point or all behind it may be missing. -/
inductive IsMantissa : List Char → List Char → List Char → Prop where
  | whole {whole : List Char} (digits : AreDigits whole) : IsMantissa whole whole []
  | point {whole fraction : List Char} (digits : AreDigits whole)
      (more : ∀ c ∈ fraction, c.isDigit = true) :
      IsMantissa (whole ++ '.' :: fraction) whole fraction
  | fraction {fraction : List Char} (digits : AreDigits fraction) :
      IsMantissa ('.' :: fraction) [] fraction

inductive IsExponent : List Char → Int → Prop where
  | none : IsExponent [] 0
  | marked {mark : Char} {cs : List Char} {exponent : Int} (isMark : mark = 'e' ∨ mark = 'E')
      (integer : IsInteger cs exponent) : IsExponent (mark :: cs) exponent

inductive IsNumeral : List Char → Numeral → Prop where
  | parts {mark mantissa tail whole fraction : List Char} {negative : Bool} {exponent : Int}
      (sign : IsSign mark negative) (digits : IsMantissa mantissa whole fraction)
      (scale : IsExponent tail exponent) :
      IsNumeral (mark ++ (mantissa ++ tail)) ⟨negative, whole, fraction, exponent⟩

def magnitude (numeral : Numeral) : ℚ :=
  natOf (numeral.whole ++ numeral.fraction) * 10 ^ (numeral.exponent - numeral.fraction.length)

theorem magnitude_nonneg (numeral : Numeral) : 0 ≤ numeral.magnitude := by
  exact mul_nonneg (Nat.cast_nonneg _) (zpow_nonneg (by norm_num) _)

theorem exists_isSign (cs : List Char) :
    ∃ mark, IsSign mark (splitSign cs).1 ∧ cs = mark ++ (splitSign cs).2 := by
  unfold splitSign
  split
  · exact ⟨_, .minus, rfl⟩
  · exact ⟨_, .plus, rfl⟩
  · exact ⟨_, .none, rfl⟩

theorem IsSign.splitSign_append {mark rest : List Char} {negative : Bool}
    (sign : IsSign mark negative) (unsigned : ∀ c ∈ rest.head?, c ≠ '-' ∧ c ≠ '+') :
    splitSign (mark ++ rest) = (negative, rest) := by
  cases sign with
  | plus => rfl
  | minus => rfl
  | none =>
    rw [List.nil_append]
    unfold splitSign
    split
    · exact absurd rfl (unsigned '-' rfl).1
    · exact absurd rfl (unsigned '+' rfl).2
    · rfl

theorem ne_sign_of_isDigit {c : Char} (digit : c.isDigit = true) : c ≠ '-' ∧ c ≠ '+' := by
  constructor <;> rintro rfl <;> exact absurd digit (by decide)

theorem isDigits_iff {digits : List Char} : isDigits digits = true ↔ AreDigits digits := by
  rw [isDigits, Bool.and_eq_true, List.all_eq_true]
  constructor
  · rintro ⟨nonempty, all⟩
    exact ⟨by simpa using nonempty, all⟩
  · rintro ⟨nonempty, all⟩
    exact ⟨by simpa using nonempty, all⟩

theorem AreDigits.unsigned {digits : List Char} (areDigits : AreDigits digits) (rest : List Char) :
    ∀ c ∈ (digits ++ rest).head?, c ≠ '-' ∧ c ≠ '+' := by
  obtain ⟨first, others, rfl⟩ := List.exists_cons_of_ne_nil areDigits.nonempty
  rintro c ⟨⟩
  exact ne_sign_of_isDigit (areDigits.all _ List.mem_cons_self)

theorem integer?_eq_some_iff {cs : List Char} {n : Int} :
    integer? cs = some n ↔ IsInteger cs n := by
  constructor
  · intro read
    obtain ⟨mark, sign, parts⟩ := exists_isSign cs
    unfold integer? at read
    dsimp only at read
    generalize (splitSign cs).1 = negative at *
    generalize (splitSign cs).2 = digits at *
    subst parts
    split at read
    · rename_i isDigits
      cases read
      exact .signed sign (isDigits_iff.mp isDigits)
    · cases read
  · rintro ⟨sign, digits⟩
    have split := sign.splitSign_append (by simpa using digits.unsigned [])
    unfold integer?
    rw [split]
    exact if_pos (isDigits_iff.mpr digits)

theorem exponent?_eq_some_iff {cs : List Char} {exponent : Int} :
    exponent? cs = some exponent ↔ IsExponent cs exponent := by
  cases cs with
  | nil =>
    rw [exponent?, Option.some.injEq]
    constructor
    · rintro rfl
      exact .none
    · rintro ⟨⟩
      rfl
  | cons mark rest =>
    rw [exponent?]
    constructor
    · intro read
      split at read
      · rename_i isMark
        exact .marked isMark (integer?_eq_some_iff.mp read)
      · cases read
    · rintro (_ | ⟨isMark, integer⟩)
      rw [if_pos isMark]
      exact integer?_eq_some_iff.mpr integer

theorem IsExponent.stop {cs : List Char} {exponent : Int} (scale : IsExponent cs exponent) :
    ∀ c ∈ cs.head?, c.isDigit = false ∧ c ≠ '.' := by
  cases scale with
  | none => exact nofun
  | marked isMark integer =>
    rintro c ⟨⟩
    rcases isMark with rfl | rfl <;> decide

/-- Where a mantissa ends, its digits are taken from the text. -/
theorem IsMantissa.split {mantissa whole fraction tail : List Char}
    (digits : IsMantissa mantissa whole fraction)
    (stop : ∀ c ∈ tail.head?, c.isDigit = false ∧ c ≠ '.') :
    (mantissa ++ tail).takeWhile Char.isDigit = whole ∧
      splitFraction ((mantissa ++ tail).dropWhile Char.isDigit) = (fraction, tail) := by
  have noDigit : ∀ c ∈ tail.head?, c.isDigit = false := fun c first => (stop c first).1
  have point (rest : List Char) : ∀ c ∈ ('.' :: rest).head?, c.isDigit = false := by
    rintro c ⟨⟩
    rfl
  cases digits with
  | whole digits =>
    rw [takeWhile_append_stop digits.all noDigit, dropWhile_append_stop digits.all noDigit]
    refine ⟨rfl, ?_⟩
    unfold splitFraction
    split
    · exact absurd rfl (stop '.' rfl).2
    · rfl
  | point digits more =>
    rw [List.append_assoc, List.cons_append, takeWhile_append_stop digits.all (point _),
      dropWhile_append_stop digits.all (point _), splitFraction,
      takeWhile_append_stop more noDigit, dropWhile_append_stop more noDigit]
    exact ⟨rfl, rfl⟩
  | fraction digits =>
    have front := @takeWhile_append_stop _ Char.isDigit [] _ (by simp) (point (fraction ++ tail))
    have back := @dropWhile_append_stop _ Char.isDigit [] _ (by simp) (point (fraction ++ tail))
    rw [List.nil_append] at front back
    rw [List.cons_append, front, back, splitFraction, takeWhile_append_stop digits.all noDigit,
      dropWhile_append_stop digits.all noDigit]
    exact ⟨rfl, rfl⟩

theorem IsMantissa.unsigned {mantissa whole fraction : List Char}
    (digits : IsMantissa mantissa whole fraction) (tail : List Char) :
    ∀ c ∈ (mantissa ++ tail).head?, c ≠ '-' ∧ c ≠ '+' := by
  cases digits with
  | whole digits => exact digits.unsigned tail
  | point digits more =>
    rw [List.append_assoc]
    exact digits.unsigned _
  | fraction digits =>
    rintro c ⟨⟩
    decide

theorem IsMantissa.nonempty {mantissa whole fraction : List Char}
    (digits : IsMantissa mantissa whole fraction) :
    (whole.isEmpty && fraction.isEmpty) = false := by
  cases digits with
  | whole digits => simp [digits.nonempty]
  | point digits more => simp [digits.nonempty]
  | fraction digits => simp [digits.nonempty]

/-- The digits taken from a text make up a mantissa, unless there are none. -/
theorem exists_isMantissa {cs : List Char}
    (nonempty : ((cs.takeWhile Char.isDigit).isEmpty &&
      (splitFraction (cs.dropWhile Char.isDigit)).1.isEmpty) = false) :
    ∃ mantissa, IsMantissa mantissa (cs.takeWhile Char.isDigit)
        (splitFraction (cs.dropWhile Char.isDigit)).1 ∧
      cs = mantissa ++ (splitFraction (cs.dropWhile Char.isDigit)).2 := by
  have whole : ∀ c ∈ cs.takeWhile Char.isDigit, c.isDigit = true :=
    List.all_eq_true.mp List.all_takeWhile
  have parts := (List.takeWhile_append_dropWhile (p := Char.isDigit) (l := cs)).symm
  generalize cs.takeWhile Char.isDigit = front at *
  generalize cs.dropWhile Char.isDigit = back at *
  subst parts
  unfold splitFraction at *
  split
  · rename_i rest
    have more : ∀ c ∈ rest.takeWhile Char.isDigit, c.isDigit = true :=
      List.all_eq_true.mp List.all_takeWhile
    have split := (List.takeWhile_append_dropWhile (p := Char.isDigit) (l := rest)).symm
    by_cases bare : front = []
    · subst bare
      refine ⟨_, .fraction ⟨by simpa using nonempty, more⟩, ?_⟩
      rw [List.nil_append, List.cons_append, ← split]
    · refine ⟨_, .point ⟨bare, whole⟩ more, ?_⟩
      rw [List.append_assoc, List.cons_append, ← split]
  · exact ⟨_, .whole ⟨by simpa using nonempty, whole⟩, rfl⟩

theorem ofChars?_eq_some_iff {cs : List Char} {numeral : Numeral} :
    ofChars? cs = some numeral ↔ IsNumeral cs numeral := by
  constructor
  · intro read
    obtain ⟨mark, sign, parts⟩ := exists_isSign cs
    unfold ofChars? at read
    dsimp only at read
    generalize (splitSign cs).1 = negative at *
    generalize (splitSign cs).2 = unsigned at *
    subst parts
    split at read
    · cases read
    · rename_i nonempty
      obtain ⟨mantissa, digits, parts⟩ := exists_isMantissa (Bool.eq_false_iff.mpr nonempty)
      obtain ⟨exponent, scale, rfl⟩ := Option.map_eq_some_iff.mp read
      have numeral := IsNumeral.parts sign digits (exponent?_eq_some_iff.mp scale)
      rw [← parts] at numeral
      exact numeral
  · rintro ⟨sign, digits, scale⟩
    obtain ⟨whole, fraction⟩ := digits.split scale.stop
    unfold ofChars?
    rw [sign.splitSign_append (digits.unsigned _)]
    dsimp only
    rw [whole, fraction, exponent?_eq_some_iff.mpr scale, digits.nonempty]
    rfl

end StreamPlan.Numeral
