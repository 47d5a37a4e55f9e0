import StreamPlan.Json.Token
import StreamPlan.Proofs.Decimal.Numeral

set_option autoImplicit false

namespace StreamPlan

namespace Numeral

theorem natOf_append (first second : List Char) :
    natOf (first ++ second) = natOf first * 10 ^ second.length + natOf second := by
  unfold natOf
  rw [Nat.ofDigitChars_append, Nat.ofDigitChars_eq_ofDigitChars_zero, Nat.mul_comm]

theorem natOf_zero : natOf ['0'] = 0 := rfl

theorem natOf_zeros (count : Nat) : natOf (List.replicate count '0') = 0 := by
  simp [natOf]

end Numeral

namespace Decimal

open Json.Token (isNumberChar)
open Numeral (sign natOf natOf_append natOf_zero natOf_zeros natOf_toDigits isDigit_of_mem_toDigits)

def Denotes (text : List Char) (value : Binary64) : Prop :=
  ∃ numeral, Numeral.ofChars? text = some numeral ∧ numeral.toBinary64 = value

theorem isDigit_zero : ∀ c ∈ ['0'], c.isDigit = true := List.forall_mem_singleton.mpr rfl

theorem isDigit_of_mem_zeros {count : Nat} {c : Char} (member : c ∈ List.replicate count '0') :
    c.isDigit = true := by
  rw [List.eq_of_mem_replicate member]
  decide

/-- The mark and the exponent after it; a plus sign changes nothing. -/
theorem exponent?_mark (plusSign : Bool) (exponent : Int) :
    Numeral.exponent? ('e' :: ((if plusSign && decide (0 ≤ exponent) then ['+'] else []) ++
      (intText exponent).toList)) = some exponent := by
  rw [Numeral.exponent?, if_pos (Or.inl rfl)]
  split
  · rename_i shown
    obtain ⟨n, rfl⟩ : ∃ n : Nat, exponent = n := by
      have : 0 ≤ exponent := by simp_all
      exact ⟨exponent.toNat, by omega⟩
    have text : (intText (n : Int)).toList = Nat.toDigits 10 n := by
      simp [intText, natText]
    rw [text]
    exact Numeral.integer?_plus n
  · exact Numeral.integer?_intText exponent

section Forms

variable {negative : Bool} {digits : List Char} (nonempty : digits ≠ [])
  (all : ∀ c ∈ digits, c.isDigit = true)

include nonempty all

theorem positional_denotes (exponent : Int) :
    Denotes (sign negative ++ positional digits (digits.length + exponent))
      (.ofDecimal negative (natOf digits) exponent) := by
  unfold positional
  have stop : ∀ c ∈ ([] : List Char).head?, c.isDigit = false := by simp
  have filled : 0 < digits.length := List.length_pos_iff.mpr nonempty
  split
  -- zeros between the point and the first digit
  · rename_i low
    have padded : ∀ c ∈ List.replicate (-(digits.length + exponent)).toNat '0' ++ digits,
        c.isDigit = true :=
      List.forall_mem_append.mpr ⟨fun _ => isDigit_of_mem_zeros, all⟩
    have read := Numeral.ofChars?_point negative (by simp) isDigit_zero padded stop
    rw [List.append_nil] at read
    refine ⟨_, read, ?_⟩
    unfold Numeral.toBinary64
    rw [natOf_append, natOf_append, natOf_zero, natOf_zeros]
    congr 1
    · simp
    · simp
      omega
  · dsimp only
    split
    -- the point between two digits
    · rename_i high inside
      have front : ∀ c ∈ digits.take (digits.length + exponent).toNat, c.isDigit = true :=
        fun c member => all c (List.mem_of_mem_take member)
      have back : ∀ c ∈ digits.drop (digits.length + exponent).toNat, c.isDigit = true :=
        fun c member => all c (List.mem_of_mem_drop member)
      have begun : digits.take (digits.length + exponent).toNat ≠ [] := by
        intro empty
        rw [List.take_eq_nil_iff] at empty
        rcases empty with none | none
        · omega
        · exact nonempty none
      have read := Numeral.ofChars?_point negative begun front back stop
      rw [List.append_nil] at read
      refine ⟨_, read, ?_⟩
      unfold Numeral.toBinary64
      rw [List.take_append_drop]
      congr 1
      simp
      omega
    -- zeros between the last digit and the point
    · rename_i high outside
      obtain ⟨zeros, rfl⟩ : ∃ zeros : Nat, exponent = zeros := ⟨exponent.toNat, by omega⟩
      have count : (digits.length + (zeros : Int)).toNat - digits.length = zeros := by omega
      have padded : ∀ c ∈ digits ++ List.replicate zeros '0', c.isDigit = true :=
        List.forall_mem_append.mpr ⟨all, fun _ => isDigit_of_mem_zeros⟩
      have read := Numeral.ofChars?_point negative (by simp [nonempty]) padded isDigit_zero stop
      rw [List.append_nil] at read
      rw [count]
      refine ⟨_, read, ?_⟩
      -- they and the zero after the point go into the digits
      have shift := Binary64.ofDecimal_shift negative (natOf digits) (zeros + 1) zeros
      rw [← shift]
      unfold Numeral.toBinary64
      rw [natOf_append, natOf_append, natOf_zero, natOf_zeros]
      congr 1
      · simp [Nat.pow_succ, Nat.mul_assoc]
      · simp

theorem scientific_denotes (plusSign : Bool) (exponent : Int) :
    Denotes (sign negative ++ scientific plusSign digits (digits.length + exponent))
      (.ofDecimal negative (natOf digits) exponent) := by
  unfold scientific
  dsimp only
  generalize tailEq : 'e' :: _ = tail
  have read : Numeral.exponent? tail = some (digits.length + exponent - 1) := by
    rw [← tailEq]
    exact exponent?_mark plusSign _
  have stop : ∀ c ∈ tail.head?, c.isDigit = false ∧ c ≠ '.' := by
    rw [← tailEq]
    intro c same
    cases same
    decide
  have begun : digits.take 1 ≠ [] := by simpa using nonempty
  have front : ∀ c ∈ digits.take 1, c.isDigit = true :=
    fun c member => all c (List.mem_of_mem_take member)
  have back : ∀ c ∈ digits.drop 1, c.isDigit = true :=
    fun c member => all c (List.mem_of_mem_drop member)
  have filled : 0 < digits.length := List.length_pos_iff.mpr nonempty
  cases rest : digits.drop 1 with
  | nil =>
    have single : digits.take 1 = digits := by
      rw [← List.append_nil (digits.take 1), ← rest, List.take_append_drop]
    have parts := Numeral.ofChars?_noPoint negative begun front stop
    rw [read] at parts
    refine ⟨_, by simpa using parts, ?_⟩
    have := congrArg List.length rest
    unfold Numeral.toBinary64
    rw [single]
    congr 1
    · simp
    · simp at this ⊢
      omega
  | cons c fraction =>
    rw [rest] at back
    have parts := Numeral.ofChars?_point negative begun front back fun c same => (stop c same).1
    rw [read] at parts
    refine ⟨_, by simpa using parts, ?_⟩
    have := congrArg List.length rest
    unfold Numeral.toBinary64
    rw [← rest, List.take_append_drop]
    congr 1
    simp at this ⊢
    omega

end Forms

/-- Every layout of a decimal is a numeral with the value of the decimal. -/
theorem Layout.write_denotes (layout : Layout) (decimal : Decimal) (negative : Bool) :
    Denotes (sign negative ++ layout.write decimal)
      (.ofDecimal negative decimal.digits decimal.exponent) := by
  have nonempty : Nat.toDigits 10 decimal.digits ≠ [] := Nat.toDigits_ne_nil
  have all : ∀ c ∈ Nat.toDigits 10 decimal.digits, c.isDigit = true :=
    fun _ => isDigit_of_mem_toDigits
  have value := natOf_toDigits decimal.digits
  unfold write
  dsimp only
  split
  · have denotes := @positional_denotes negative _ nonempty all decimal.exponent
    rwa [value] at denotes
  · have denotes := @scientific_denotes negative _ nonempty all layout.plusSign decimal.exponent
    rwa [value] at denotes

theorem isNumberChar_of_isDigit {c : Char} (digit : c.isDigit = true) : isNumberChar c = true := by
  simp [isNumberChar, digit]

theorem isNumberChar_intText {n : Int} : ∀ c ∈ (intText n).toList, isNumberChar c = true := by
  intro c member
  cases n with
  | ofNat n =>
    rw [intText, natText, String.toList_ofList] at member
    exact isNumberChar_of_isDigit (isDigit_of_mem_toDigits member)
  | negSucc n =>
    rw [intText, natText, String.toList_append, String.toList_ofList] at member
    simp only [String.toList_ofList] at member
    rcases List.mem_append.mp member with sign | digit
    · obtain rfl : c = '-' := by simpa using sign
      rfl
    · exact isNumberChar_of_isDigit (isDigit_of_mem_toDigits digit)

section Characters

variable {digits : List Char} (all : ∀ c ∈ digits, c.isDigit = true)

include all

theorem isNumberChar_positional (point : Int) :
    ∀ c ∈ positional digits point, isNumberChar c = true := by
  have digit : ∀ c ∈ digits, isNumberChar c = true :=
    fun c member => isNumberChar_of_isDigit (all c member)
  have zeros (count : Nat) : ∀ c ∈ List.replicate count '0', isNumberChar c = true :=
    fun c member => isNumberChar_of_isDigit (isDigit_of_mem_zeros member)
  unfold positional
  dsimp only
  split
  · have inner := List.forall_mem_append.mpr ⟨zeros (-point).toNat, digit⟩
    exact List.forall_mem_cons.mpr ⟨rfl, List.forall_mem_cons.mpr ⟨rfl, inner⟩⟩
  · split
    · exact List.forall_mem_append.mpr ⟨fun c member => digit c (List.mem_of_mem_take member),
        List.forall_mem_cons.mpr ⟨rfl, fun c member => digit c (List.mem_of_mem_drop member)⟩⟩
    · exact List.forall_mem_append.mpr ⟨List.forall_mem_append.mpr ⟨digit, zeros _⟩,
        List.forall_mem_cons.mpr ⟨rfl, List.forall_mem_singleton.mpr rfl⟩⟩

theorem isNumberChar_scientific (plusSign : Bool) (point : Int) :
    ∀ c ∈ scientific plusSign digits point, isNumberChar c = true := by
  have front : ∀ c ∈ digits.take 1, isNumberChar c = true :=
    fun c member => isNumberChar_of_isDigit (all c (List.mem_of_mem_take member))
  have back : ∀ c ∈ digits.drop 1, isNumberChar c = true :=
    fun c member => isNumberChar_of_isDigit (all c (List.mem_of_mem_drop member))
  have sign : ∀ c ∈ if plusSign && decide (0 ≤ point - 1) then ['+'] else [],
      isNumberChar c = true := by
    split
    · exact List.forall_mem_singleton.mpr rfl
    · exact List.forall_mem_nil _
  have marked : ∀ c ∈ 'e' :: ((if plusSign && decide (0 ≤ point - 1) then ['+'] else []) ++
      (intText (point - 1)).toList), isNumberChar c = true := by
    rw [List.forall_mem_cons, List.forall_mem_append]
    exact ⟨rfl, sign, isNumberChar_intText⟩
  unfold scientific
  dsimp only
  split
  · rw [List.append_nil]
    exact List.forall_mem_append.mpr ⟨front, marked⟩
  · have fraction : ∀ c ∈ '.' :: digits.drop 1, isNumberChar c = true := by
      rw [List.forall_mem_cons]
      exact ⟨rfl, back⟩
    exact List.forall_mem_append.mpr ⟨List.forall_mem_append.mpr ⟨front, fraction⟩, marked⟩

end Characters

theorem Layout.isNumberChar_write (layout : Layout) (decimal : Decimal) :
    ∀ c ∈ layout.write decimal, isNumberChar c = true := by
  have all : ∀ c ∈ Nat.toDigits 10 decimal.digits, c.isDigit = true :=
    fun _ => isDigit_of_mem_toDigits
  unfold write
  dsimp only
  split
  · exact isNumberChar_positional all _
  · exact isNumberChar_scientific all layout.plusSign _

-- No layout writes an integer: there is a point or an exponent.
theorem Layout.exists_mark_write (layout : Layout) (decimal : Decimal) :
    ∃ c ∈ layout.write decimal, c = '.' ∨ c = 'e' := by
  unfold write
  dsimp only
  split
  · refine ⟨'.', ?_, Or.inl rfl⟩
    unfold positional
    dsimp only
    split
    · simp
    · split
      · simp
      · simp
  · refine ⟨'e', ?_, Or.inr rfl⟩
    unfold scientific
    simp

end Decimal
end StreamPlan
