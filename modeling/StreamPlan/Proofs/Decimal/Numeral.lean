import StreamPlan.Decimal.Layout
import StreamPlan.Decimal.Numeral
import StreamPlan.Proofs.Binary64.Rounding
import StreamPlan.Proofs.Text.Split

set_option autoImplicit false

namespace StreamPlan.Numeral

open Text (takeWhile_append_stop dropWhile_append_stop)
open Decimal (natText intText)

def sign (negative : Bool) : List Char := if negative then ['-'] else []

theorem isDigit_of_mem_toDigits {n : Nat} {c : Char} (member : c ∈ Nat.toDigits 10 n) :
    c.isDigit = true :=
  Nat.isDigit_of_mem_toDigits (by decide) (by decide) member

theorem natOf_toDigits (n : Nat) : natOf (Nat.toDigits 10 n) = n := Nat.ofDigitChars_ten_toDigits

theorem isDigits_toDigits (n : Nat) : isDigits (Nat.toDigits 10 n) = true := by
  have nonempty : (Nat.toDigits 10 n).isEmpty = false := by
    rw [List.isEmpty_eq_false_iff]
    exact Nat.toDigits_ne_nil
  simp only [isDigits, nonempty, Bool.not_false, Bool.true_and, List.all_eq_true]
  intro c member
  exact isDigit_of_mem_toDigits member

theorem splitSign_digit {c : Char} (digit : c.isDigit = true) (rest : List Char) :
    splitSign (c :: rest) = (false, c :: rest) := by
  unfold splitSign
  split
  · rename_i same
    cases same
    exact absurd digit (by decide)
  · rename_i same
    cases same
    exact absurd digit (by decide)
  · rfl

theorem splitSign_sign (negative : Bool) {digits : List Char} (nonempty : digits ≠ [])
    (all : ∀ c ∈ digits, c.isDigit = true) (rest : List Char) :
    splitSign (sign negative ++ (digits ++ rest)) = (negative, digits ++ rest) := by
  cases negative with
  | true => rfl
  | false =>
    cases digits with
    | nil => exact absurd rfl nonempty
    | cons c digits => exact splitSign_digit (all c (by simp)) (digits ++ rest)

theorem integer?_toDigits (n : Nat) : integer? (Nat.toDigits 10 n) = some (n : Int) := by
  have split := splitSign_sign false (Nat.toDigits_ne_nil (n := n) (b := 10))
    (fun _ => isDigit_of_mem_toDigits) []
  rw [List.append_nil] at split
  unfold integer?
  rw [show Nat.toDigits 10 n = sign false ++ Nat.toDigits 10 n from rfl, split]
  simp [isDigits_toDigits, natOf_toDigits, signed]

theorem integer?_plus (n : Nat) : integer? ('+' :: Nat.toDigits 10 n) = some (n : Int) := by
  simp [integer?, splitSign, isDigits_toDigits, natOf_toDigits, signed]

theorem integer?_intText (n : Int) : integer? (intText n).toList = some n := by
  cases n with
  | ofNat n => simp [intText, natText, integer?_toDigits]
  | negSucc n =>
    simp [intText, natText, integer?, splitSign, isDigits_toDigits, natOf_toDigits, signed]
    omega

-- What holds a character that is neither digit nor sign is no integer.
theorem integer?_eq_none {cs : List Char} {c : Char} (member : c ∈ cs)
    (notDigit : c.isDigit = false) (notSign : c ≠ '-' ∧ c ≠ '+') : integer? cs = none := by
  have kept : c ∈ (splitSign cs).2 := by
    unfold splitSign
    split
    · simpa [notSign.1] using member
    · simpa [notSign.2] using member
    · exact member
  have refused : isDigits (splitSign cs).2 = false := by
    apply Bool.eq_false_iff.mpr
    intro digits
    unfold isDigits at digits
    have all := List.all_eq_true.mp (Bool.and_eq_true_iff.mp digits).2 c kept
    simp [notDigit] at all
  unfold integer?
  simp [refused]

theorem int64?_toInt (value : Int64) : int64? value.toInt = some value := by
  have low := Int64.minValue_le_toInt value
  have high := Int64.toInt_le value
  unfold int64?
  rw [if_pos ⟨by simpa using low, by simpa using high⟩, Int64.ofInt_toInt]

section Forms

variable (negative : Bool) {whole fraction tail : List Char} (nonempty : whole ≠ [])
  (digits : ∀ c ∈ whole, c.isDigit = true)

include nonempty digits

theorem ofChars?_point (more : ∀ c ∈ fraction, c.isDigit = true)
    (stop : ∀ c ∈ tail.head?, c.isDigit = false) :
    ofChars? (sign negative ++ (whole ++ '.' :: (fraction ++ tail))) =
      (exponent? tail).map fun exponent => ⟨negative, whole, fraction, exponent⟩ := by
  have point : ∀ c ∈ ('.' :: (fraction ++ tail)).head?, c.isDigit = false := by
    intro c same
    cases same
    rfl
  have filled : whole.isEmpty = false := by simpa using nonempty
  unfold ofChars?
  rw [splitSign_sign negative nonempty digits]
  simp only [takeWhile_append_stop digits point, dropWhile_append_stop digits point, splitFraction,
    takeWhile_append_stop more stop, dropWhile_append_stop more stop, filled, Bool.false_and,
    Bool.false_eq_true, if_false]

theorem ofChars?_noPoint (stop : ∀ c ∈ tail.head?, c.isDigit = false ∧ c ≠ '.') :
    ofChars? (sign negative ++ (whole ++ tail)) =
      (exponent? tail).map fun exponent => ⟨negative, whole, [], exponent⟩ := by
  have noDigit : ∀ c ∈ tail.head?, c.isDigit = false := fun c same => (stop c same).1
  have noFraction : splitFraction tail = ([], tail) := by
    unfold splitFraction
    split
    · exact absurd rfl (stop '.' rfl).2
    · rfl
  have filled : whole.isEmpty = false := by simpa using nonempty
  unfold ofChars?
  rw [splitSign_sign negative nonempty digits]
  simp only [takeWhile_append_stop digits noDigit, dropWhile_append_stop digits noDigit, noFraction,
    filled, Bool.false_and, Bool.false_eq_true, if_false]

end Forms

end StreamPlan.Numeral
