import StreamPlan.Json.Decode
import StreamPlan.Proofs.Binary64.Shortest
import StreamPlan.Proofs.Decimal.Layout
import StreamPlan.Proofs.Text.Split

set_option autoImplicit false

namespace StreamPlan.Json.Token

open Decimal (Layout intText natText positional scientific)
open Numeral (isDigits sign)
open Text (takeWhile_append_stop dropWhile_append_stop)

structure IsNumberText (text : List Char) : Prop where
  number : isNumber text = true
  numeric : ∀ c ∈ text, isNumberChar c = true

theorem head?_toDigits {n : Nat} (nonzero : n ≠ 0) : (Nat.toDigits 10 n).head? ≠ some '0' := by
  induction n using Nat.strongRecOn with
  | ind n ih =>
    by_cases small : n < 10
    · have digit : ∀ d < 10, d ≠ 0 → (Nat.toDigits 10 d).head? ≠ some '0' := by decide
      exact digit n small nonzero
    -- the last digit is not the first
    · have front := ih (n / 10) (by omega) (by omega)
      rw [Nat.toDigits_of_base_le (by decide) (by omega), List.head?_append]
      obtain ⟨c, rest, same⟩ := List.exists_cons_of_ne_nil (@Nat.toDigits_ne_nil (n / 10) 10)
      rw [same] at front ⊢
      exact front

theorem isWhole_of_head?_ne {digits : List Char} (nonempty : digits ≠ [])
    (all : ∀ c ∈ digits, c.isDigit = true) (leading : digits.head? ≠ some '0') :
    isWhole digits = true := by
  unfold isWhole
  split
  · rfl
  · simp at leading
  · simp [isDigits, nonempty]
    exact all

theorem isWhole_singleton {c : Char} (digit : c.isDigit = true) : isWhole [c] = true := by
  by_cases zero : c = '0'
  · subst zero
    rfl
  · exact isWhole_of_head?_ne (by simp) (by simpa using digit) (by simpa using zero)

theorem isWhole_toDigits (n : Nat) : isWhole (Nat.toDigits 10 n) = true := by
  by_cases zero : n = 0
  · subst zero
    decide
  · exact isWhole_of_head?_ne Nat.toDigits_ne_nil (fun _ => Numeral.isDigit_of_mem_toDigits)
      (head?_toDigits zero)

section Parts

variable (negative : Bool) {whole fraction tail : List Char} (isWhole : isWhole whole = true)
  (digits : ∀ c ∈ whole, c.isDigit = true)

include isWhole digits

theorem withoutMinus_sign (rest : List Char) :
    withoutMinus (sign negative ++ (whole ++ rest)) = whole ++ rest := by
  cases negative with
  | true => rfl
  | false =>
    cases whole with
    | nil => cases isWhole
    | cons c others =>
      have notSign : c ≠ '-' := by
        rintro rfl
        exact absurd (digits '-' (by simp)) (by decide)
      simp [withoutMinus, sign, notSign]

theorem isNumber_whole (stop : ∀ c ∈ tail.head?, c.isDigit = false) :
    isNumber (sign negative ++ (whole ++ tail)) = isFractionExponent tail := by
  unfold isNumber
  dsimp only
  rw [withoutMinus_sign negative isWhole digits, takeWhile_append_stop digits stop,
    dropWhile_append_stop digits stop, isWhole, Bool.true_and]

theorem isNumber_noPoint (stop : ∀ c ∈ tail.head?, c.isDigit = false ∧ c ≠ '.') :
    isNumber (sign negative ++ (whole ++ tail)) = isExponent tail := by
  rw [isNumber_whole negative isWhole digits fun c same => (stop c same).1]
  unfold isFractionExponent
  split
  · exact absurd rfl (stop '.' rfl).2
  · rfl

theorem isNumber_point (nonempty : fraction ≠ []) (more : ∀ c ∈ fraction, c.isDigit = true)
    (stop : ∀ c ∈ tail.head?, c.isDigit = false) :
    isNumber (sign negative ++ (whole ++ '.' :: (fraction ++ tail))) = isExponent tail := by
  have point : ∀ c ∈ ('.' :: (fraction ++ tail)).head?, c.isDigit = false := by
    intro c same
    cases same
    rfl
  have filled : isDigits fraction = true := by
    simp [isDigits, nonempty]
    exact more
  rw [isNumber_whole negative isWhole digits point, isFractionExponent,
    takeWhile_append_stop more stop, dropWhile_append_stop more stop, filled, Bool.true_and]

end Parts

theorem isNumberText_intText (n : Int) : IsNumberText (intText n).toList := by
  refine ⟨?_, Decimal.isNumberChar_intText⟩
  have digits (n : Nat) : ∀ c ∈ Nat.toDigits 10 n, c.isDigit = true :=
    fun _ => Numeral.isDigit_of_mem_toDigits
  have unsigned (negative : Bool) (n : Nat) :
      isNumber (sign negative ++ (Nat.toDigits 10 n ++ [])) = true := by
    rw [isNumber_noPoint negative (isWhole_toDigits n) (digits n) (by simp)]
    rfl
  cases n with
  | ofNat n => simpa [intText, natText, sign] using unsigned false n
  | negSucc n => simpa [intText, natText, sign] using unsigned true (n + 1)

section Forms

variable (negative : Bool) {digits : List Char} (nonempty : digits ≠ [])
  (all : ∀ c ∈ digits, c.isDigit = true)

include nonempty all

-- A leading zero is the only digit before the point.
theorem isNumber_positional {point : Int}
    (leading : digits.head? = some '0' → digits = ['0'] ∧ point = 1) :
    isNumber (sign negative ++ positional digits point) = true := by
  have stop : ∀ c ∈ ([] : List Char).head?, c.isDigit = false := by simp
  have filled : 0 < digits.length := List.length_pos_iff.mpr nonempty
  unfold positional
  split
  · have padded : ∀ c ∈ List.replicate (-point).toNat '0' ++ digits, c.isDigit = true :=
      List.forall_mem_append.mpr ⟨fun _ => Decimal.isDigit_of_mem_zeros, all⟩
    have number := @isNumber_point negative ['0'] _ [] rfl Decimal.isDigit_zero
      (by simp [nonempty]) padded stop
    rw [List.append_nil] at number
    exact number
  · dsimp only
    split
    · rename_i high inside
      have front : ∀ c ∈ digits.take point.toNat, c.isDigit = true :=
        fun c member => all c (List.mem_of_mem_take member)
      have back : ∀ c ∈ digits.drop point.toNat, c.isDigit = true :=
        fun c member => all c (List.mem_of_mem_drop member)
      have notZero : digits.head? ≠ some '0' := by
        intro zero
        obtain ⟨single, one⟩ := leading zero
        rw [single, one] at inside
        exact absurd inside (by decide)
      have begun : ¬ point.toNat = 0 := by omega
      have whole : isWhole (digits.take point.toNat) = true := by
        apply isWhole_of_head?_ne _ front
        · rwa [List.head?_take, if_neg begun]
        · simp [begun, nonempty]
      have number := isNumber_point negative whole front (by simpa using inside) back stop
      rw [List.append_nil] at number
      exact number
    · have padded : ∀ c ∈ digits ++ List.replicate (point.toNat - digits.length) '0',
          c.isDigit = true :=
        List.forall_mem_append.mpr ⟨all, fun _ => Decimal.isDigit_of_mem_zeros⟩
      have whole : isWhole (digits ++ List.replicate (point.toNat - digits.length) '0') = true := by
        by_cases zero : digits.head? = some '0'
        · obtain ⟨single, one⟩ := leading zero
          rw [single, one]
          rfl
        · apply isWhole_of_head?_ne (by simp [nonempty]) padded
          obtain ⟨c, rest, rfl⟩ := List.exists_cons_of_ne_nil nonempty
          simpa using zero
      exact @isNumber_point negative _ ['0'] [] whole padded (by simp) Decimal.isDigit_zero stop

theorem isNumber_scientific (plusSign : Bool) (point : Int) :
    isNumber (sign negative ++ scientific plusSign digits point) = true := by
  unfold scientific
  dsimp only
  generalize tailEq : 'e' :: _ = tail
  have exponent : isExponent tail = true := by
    rw [← tailEq, isExponent, Decimal.exponent?_mark]
    rfl
  have stop : ∀ c ∈ tail.head?, c.isDigit = false ∧ c ≠ '.' := by
    rw [← tailEq]
    intro c same
    cases same
    decide
  obtain ⟨c, rest, rfl⟩ := List.exists_cons_of_ne_nil nonempty
  obtain ⟨digit, others⟩ := List.forall_mem_cons.mp all
  have single : ∀ d ∈ [c], d.isDigit = true := by simpa using digit
  cases rest with
  | nil =>
    have number := isNumber_noPoint negative (isWhole_singleton digit) single stop
    rw [exponent] at number
    exact number
  | cons next rest =>
    have number := isNumber_point negative (isWhole_singleton digit) single (by simp) others
      fun c same => (stop c same).1
    rw [exponent] at number
    exact number

end Forms

-- A decimal is written as a number, unless it is a zero with an exponent.
theorem isNumber_write (layout : Layout) {decimal : Decimal}
    (zero : decimal.digits = 0 → decimal.exponent = 0) (negative : Bool) :
    isNumber (sign negative ++ layout.write decimal) = true := by
  have nonempty : Nat.toDigits 10 decimal.digits ≠ [] := Nat.toDigits_ne_nil
  have all : ∀ c ∈ Nat.toDigits 10 decimal.digits, c.isDigit = true :=
    fun _ => Numeral.isDigit_of_mem_toDigits
  unfold Layout.write
  dsimp only
  split
  · apply isNumber_positional negative nonempty all
    intro leading
    by_cases isZero : decimal.digits = 0
    · rw [isZero, zero isZero, Nat.toDigits_zero]
      exact ⟨rfl, rfl⟩
    · exact absurd leading (head?_toDigits isZero)
  · exact isNumber_scientific negative nonempty all _ _

end StreamPlan.Json.Token

namespace StreamPlan.Binary64

open Json.Token (IsNumberText)
open Numeral (sign)

-- Only zero has a shortest decimal without digits.
theorem Rank.shortest_zero {tie : Decimal.Tie} {rank : Rank}
    (noDigits : (rank.shortest tie).digits = 0) : (rank.shortest tie).exponent = 0 := by
  have reads := rank.shortest_readsBack tie false
  rw [noDigits, ofDecimal_zero] at reads
  have zero : rank.val = 0 := by
    unfold Binary64.zero at reads
    cases reads
    rfl
  unfold shortest
  rw [if_pos zero]

theorem text?_finite (layout : Decimal.Layout) (negative : Bool) (rank : Rank) :
    (Binary64.finite negative rank).text? layout =
      some (String.ofList (sign negative ++ layout.write (rank.shortest layout.tie))) := rfl

theorem isNumberText_text? {layout : Decimal.Layout} {x : Binary64} {text : String}
    (written : x.text? layout = some text) : IsNumberText text.toList := by
  cases x with
  | infinite negative => cases written
  | nan => cases written
  | finite negative rank =>
    rw [text?_finite] at written
    cases written
    rw [String.toList_ofList]
    refine ⟨Json.Token.isNumber_write layout Rank.shortest_zero negative, ?_⟩
    intro c member
    rcases List.mem_append.mp member with isSign | inside
    · cases negative with
      | true => simp_all [sign, Json.Token.isNumberChar]
      | false => cases isSign
    · exact layout.isNumberChar_write _ c inside

end StreamPlan.Binary64
