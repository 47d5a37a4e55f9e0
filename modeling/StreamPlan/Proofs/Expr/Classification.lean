import StreamPlan.Proofs.Binary64.Nearest
import StreamPlan.Proofs.Decimal.Grammar
import StreamPlan.Proofs.Expr.Literal

/-! What unquoted text stands for, by its form alone: which texts are truth values, integers, floats
and identifiers, and the values of the numbers. -/

set_option autoImplicit false

namespace StreamPlan

open Binary64 (RoundsTo)
open Numeral (IsInteger IsNumeral)

theorem Numeral.int64?_eq_some_iff {n : Int} {value : Int64} :
    Numeral.int64? n = some value ↔ n = value.toInt := by
  constructor
  · intro read
    unfold Numeral.int64? at read
    split at read
    · rename_i fits
      cases read
      rw [← Int64.ofIntLE_eq_ofInt fits.1 fits.2, Int64.toInt_ofIntLE]
    · cases read
  · rintro rfl
    exact int64?_toInt value

theorem Numeral.toBinary64_eq_finite_iff {numeral : Numeral} {negative : Bool}
    {rank : Binary64.Rank} : numeral.toBinary64 = .finite negative rank ↔
      negative = numeral.negative ∧ RoundsTo numeral.magnitude rank :=
  Binary64.ofDecimal_eq_finite_iff

namespace Literal

def IsInt64 (cs : List Char) : Prop :=
  ∃ n, IsInteger cs n ∧ -2 ^ 63 ≤ n ∧ n ≤ 2 ^ 63 - 1

/-- A numeral whose value is below those that are rounded to infinity. -/
def IsFinite (cs : List Char) : Prop :=
  ∃ numeral, IsNumeral cs numeral ∧ numeral.magnitude < Binary64.overflow

theorem int64?_eq_some_iff {cs : List Char} {value : Int64} :
    int64? cs = some value ↔ IsInteger cs value.toInt := by
  rw [int64?, Option.bind_eq_some_iff]
  constructor
  · rintro ⟨n, read, fits⟩
    rw [← Numeral.int64?_eq_some_iff.mp fits]
    exact Numeral.integer?_eq_some_iff.mp read
  · intro integer
    exact ⟨_, Numeral.integer?_eq_some_iff.mpr integer, Numeral.int64?_toInt value⟩

theorem isInt64_iff {cs : List Char} : IsInt64 cs ↔ ∃ value, int64? cs = some value := by
  simp only [int64?_eq_some_iff]
  constructor
  · rintro ⟨n, integer, low, high⟩
    refine ⟨.ofInt n, ?_⟩
    rw [Int64.toInt_ofInt_of_le low (by omega)]
    exact integer
  · rintro ⟨value, integer⟩
    exact ⟨_, integer, Int64.le_toInt value, Int64.toInt_le value⟩

theorem int64?_eq_none_iff {cs : List Char} : int64? cs = none ↔ ¬ IsInt64 cs := by
  rw [isInt64_iff, not_exists, Option.eq_none_iff_forall_ne_some]

theorem finite?_eq_some_iff {cs : List Char} {x : Binary64} :
    finite? cs = some x ↔ ∃ numeral rank, IsNumeral cs numeral ∧
      x = .finite numeral.negative rank ∧ RoundsTo numeral.magnitude rank := by
  rw [finite?, Option.bind_eq_some_iff]
  constructor
  · rintro ⟨numeral, read, value⟩
    split at value
    · rename_i finite
      cases value
      obtain ⟨negative, rank, same⟩ :
          ∃ negative rank, numeral.toBinary64 = .finite negative rank := by
        generalize numeral.toBinary64 = x at finite
        cases x <;> simp_all [Binary64.isFinite]
      obtain ⟨rfl, rounds⟩ := Numeral.toBinary64_eq_finite_iff.mp same
      exact ⟨numeral, rank, Numeral.ofChars?_eq_some_iff.mp read, same, rounds⟩
    · cases value
  · rintro ⟨numeral, rank, written, rfl, rounds⟩
    have same := Numeral.toBinary64_eq_finite_iff.mpr ⟨rfl, rounds⟩
    refine ⟨numeral, Numeral.ofChars?_eq_some_iff.mpr written, ?_⟩
    rw [same]
    rfl

theorem isFinite_iff {cs : List Char} : IsFinite cs ↔ ∃ x, finite? cs = some x := by
  simp only [finite?_eq_some_iff]
  constructor
  · rintro ⟨numeral, written, bounded⟩
    obtain ⟨rank, rounds⟩ := (Binary64.exists_roundsTo_iff numeral.magnitude_nonneg).mpr bounded
    exact ⟨_, numeral, rank, written, rfl, rounds⟩
  · rintro ⟨-, numeral, rank, written, -, rounds⟩
    exact ⟨numeral, written, rounds.bounded⟩

theorem finite?_eq_none_iff {cs : List Char} : finite? cs = none ↔ ¬ IsFinite cs := by
  rw [isFinite_iff, not_exists, Option.eq_none_iff_forall_ne_some]

theorem number?_eq_int_iff {cs : List Char} {value : Int64} :
    number? cs = some (.int value) ↔ int64? cs = some value := by
  unfold number?
  cases int64? cs <;> simp

theorem number?_eq_float_iff {cs : List Char} {x : Binary64} :
    number? cs = some (.float x) ↔ int64? cs = none ∧ finite? cs = some x := by
  unfold number?
  cases int64? cs <;> simp

theorem number?_ne_bool {cs : List Char} {value : Bool} : number? cs ≠ some (.bool value) := by
  unfold number?
  cases int64? cs <;> simp

variable {text : String}

/-- The truth values come before the numbers, but neither of them is a number. -/
theorem classify_eq_number_iff {literal : Literal} (notBool : ∀ value, literal ≠ .bool value)
    (notName : ∀ name, literal ≠ .identifier name) :
    classify text = literal ↔ number? (Text.trim text).toList = some literal := by
  have notTrue : number? "True".toList = none := by decide +kernel
  have notFalse : number? "False".toList = none := by decide +kernel
  unfold classify
  dsimp only
  split
  · rename_i word
    rw [word, notTrue]
    simp [(notBool true).symm]
  split
  · rename_i word
    rw [word, notFalse]
    simp [(notBool false).symm]
  · cases number? (Text.trim text).toList with
    | none => simp [(notName _).symm]
    | some found => simp

theorem classify_eq_bool_iff {value : Bool} :
    classify text = .bool value ↔ Text.trim text = if value then "True" else "False" := by
  unfold classify
  dsimp only
  split
  · rename_i word
    cases value <;> simp [word]
  split
  · rename_i word
    cases value <;> simp [word]
  · rename_i notTrue notFalse
    have notWord : Text.trim text ≠ if value then "True" else "False" := by
      cases value
      · exact notFalse
      · exact notTrue
    cases found : number? (Text.trim text).toList with
    | none => simp [notWord]
    | some literal =>
      have notBool : literal ≠ .bool value := by
        rintro rfl
        exact number?_ne_bool found
      simp [notWord, notBool]

theorem classify_eq_int_iff {value : Int64} :
    classify text = .int value ↔ IsInteger (Text.trim text).toList value.toInt := by
  rw [classify_eq_number_iff (by simp) (by simp), number?_eq_int_iff, int64?_eq_some_iff]

theorem classify_eq_float_iff {x : Binary64} :
    classify text = .float x ↔ ¬ IsInt64 (Text.trim text).toList ∧
      ∃ numeral rank, IsNumeral (Text.trim text).toList numeral ∧
        x = .finite numeral.negative rank ∧ RoundsTo numeral.magnitude rank := by
  rw [classify_eq_number_iff (by simp) (by simp), number?_eq_float_iff, int64?_eq_none_iff,
    finite?_eq_some_iff]

theorem classify_ne_str {value : String} : classify text ≠ .str value := by
  intro same
  have fromRun := fromRun_classify text
  rw [same] at fromRun
  cases fromRun

/-- A text is the truth value, the integer of 64 bits or else the finite float that it is the form
of, an identifier if it has none of these forms, and never a text constant. -/
theorem classify_exact (text : String) :
    (∀ value, classify text = .bool value ↔
      Text.trim text = if value then "True" else "False") ∧
    (∀ value, classify text = .int value ↔ IsInteger (Text.trim text).toList value.toInt) ∧
    (∀ x, classify text = .float x ↔ ¬ IsInt64 (Text.trim text).toList ∧
      ∃ numeral rank, IsNumeral (Text.trim text).toList numeral ∧
        x = .finite numeral.negative rank ∧ RoundsTo numeral.magnitude rank) ∧
    (∀ name, classify text = .identifier name ↔ name = Text.trim text ∧
      (name ≠ "True" ∧ name ≠ "False") ∧ ¬ IsInt64 name.toList ∧ ¬ IsFinite name.toList) ∧
    ∀ value, classify text ≠ .str value := by
  refine ⟨fun _ => classify_eq_bool_iff, fun _ => classify_eq_int_iff,
    fun _ => classify_eq_float_iff, fun name => ?_, fun _ => classify_ne_str⟩
  rw [classify_eq_identifier_iff, int64?_eq_none_iff, finite?_eq_none_iff]

end Literal
end StreamPlan
