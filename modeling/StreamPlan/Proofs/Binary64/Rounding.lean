import StreamPlan.Binary64.Shortest
import Mathlib.Tactic.Ring

/-! Rounding depends on the value of a quotient only, the shortcuts of `ofDecimal` change nothing,
and values that binary64 numbers have are not moved. -/

set_option autoImplicit false

namespace StreamPlan.Binary64

@[irreducible] def unitBits : Nat := 1074

theorem unitBits_eq : unitBits = 1074 := by
  unfold unitBits
  rfl

-- How often the least positive value goes into one. Powers as long as this one are kept from being
-- evaluated.
@[irreducible] def unitsPerOne : Nat := Nat.pow 2 1074

theorem unitsPerOne_eq_pow : unitsPerOne = 2 ^ unitBits := by
  unfold unitsPerOne unitBits
  generalize 1074 = bits
  rfl

def rankOfUnits (units den : Nat) : Nat :=
  perExponent * ((units / den).log2 - 52) +
    roundEven units (den * 2 ^ ((units / den).log2 - 52))

theorem nearestRank_eq (num den : Nat) :
    nearestRank num den = rankOfUnits (unitsPerOne * num) den := by
  unfold nearestRank rankOfUnits unitsPerOne
  exact rfl

theorem roundEven_mul (num den : Nat) {scale : Nat} (positive : 0 < scale) :
    roundEven (num * scale) (den * scale) = roundEven num den := by
  have twice : 2 * (num % den * scale) = 2 * (num % den) * scale := by ring
  simp only [roundEven, Nat.mul_div_mul_right _ _ positive, Nat.mul_mod_mul_right, twice,
    Nat.mul_lt_mul_right positive, Nat.mul_left_inj (Nat.ne_of_gt positive)]

theorem roundEven_one (num : Nat) : roundEven num 1 = num := by
  simp [roundEven, Nat.mod_one]

theorem rankOfUnits_mul (units den : Nat) {scale : Nat} (positive : 0 < scale) :
    rankOfUnits (units * scale) (den * scale) = rankOfUnits units den := by
  have steps (step : Nat) : den * scale * step = den * step * scale := by ring
  simp only [rankOfUnits, Nat.mul_div_mul_right _ _ positive, steps, roundEven_mul _ _ positive]

section Quotients

variable (negative : Bool) {num den : Nat}

theorem ofRatio_of_some {rank : Rank} (found : Rank.ofRatio? num den = some rank) :
    ofRatio negative num den = .finite negative rank := by
  unfold ofRatio
  -- without a name for the result its evaluation is tried, and that does not end
  generalize Rank.ofRatio? num den = result at found
  rw [found]

theorem ofRatio_of_none (found : Rank.ofRatio? num den = none) :
    ofRatio negative num den = .infinite negative := by
  unfold ofRatio
  generalize Rank.ofRatio? num den = result at found
  rw [found]

theorem ofRatio_of_rank {rank : Rank} (nearest : nearestRank num den = rank.val) :
    ofRatio negative num den = .finite negative rank := by
  apply ofRatio_of_some
  unfold Rank.ofRatio?
  rw [nearest]
  exact dif_pos rank.isLt

theorem ofRatio_of_beyond (beyond : 0x7FF0000000000000 ≤ nearestRank num den) :
    ofRatio negative num den = .infinite negative := by
  apply ofRatio_of_none
  exact dif_neg (Nat.not_lt.mpr beyond)

/-- A quotient and the same quotient in lower terms are rounded alike. -/
theorem ofRatio_mul {scale : Nat} (positive : 0 < scale) :
    ofRatio negative (num * scale) (den * scale) = ofRatio negative num den := by
  have same : nearestRank (num * scale) (den * scale) = nearestRank num den := by
    rw [nearestRank_eq, nearestRank_eq, ← Nat.mul_assoc]
    exact rankOfUnits_mul _ _ positive
  unfold ofRatio Rank.ofRatio?
  rw [same]

-- What is not below the 1025th power of two is beyond the finite values.
theorem ofRatio_of_large {bits : Nat} (enough : 1025 ≤ bits) (large : 2 ^ bits ≤ num) :
    ofRatio negative num 1 = .infinite negative := by
  have units : 2 ^ (unitBits + bits) ≤ unitsPerOne * num := by
    rewrite [Nat.pow_add, unitsPerOne_eq_pow]
    exact Nat.mul_le_mul_left _ large
  have positive : unitsPerOne * num ≠ 0 :=
    Nat.ne_of_gt (Nat.lt_of_lt_of_le (Nat.two_pow_pos _) units)
  have log : unitBits + bits ≤ (unitsPerOne * num).log2 := (Nat.le_log2 positive).mpr units
  rw [unitBits_eq] at log
  apply ofRatio_of_beyond
  rw [nearestRank_eq, rankOfUnits, Nat.div_one, perExponent]
  omega

-- What is less than half of the least positive value is rounded to zero.
theorem ofRatio_of_small (small : 2 * (unitsPerOne * num) < den) :
    ofRatio negative num den = zero negative := by
  have below : unitsPerOne * num / den = 0 := Nat.div_eq_of_lt (by omega)
  have rest : unitsPerOne * num % den = unitsPerOne * num := Nat.mod_eq_of_lt (by omega)
  apply ofRatio_of_rank
  rw [nearestRank_eq, rankOfUnits, below]
  simp [roundEven, below, rest, small]

end Quotients

theorem two_pow_le_ten_pow (count : Nat) : 2 ^ (3 * count) ≤ 10 ^ count := by
  rw [Nat.pow_mul]
  exact Nat.pow_le_pow_left (by decide) count

-- Of ten places nine have three bits and one has six.
theorem two_pow_le_ten_pow_ten (count : Nat) : 2 ^ (33 * count) ≤ 10 ^ (10 * count) := by
  rw [Nat.pow_mul, Nat.pow_mul]
  exact Nat.pow_le_pow_left (by decide) count

section Decimals

variable (negative : Bool) {digits : Nat} {exponent : Int}

theorem ofDecimal_zero (exponent : Int) : ofDecimal negative 0 exponent = zero negative := by
  simp [ofDecimal]

-- A number of more than 310 places has more than 1025 bits.
theorem ofRatio_ten_pow_of_large {places : Nat} (positive : 0 < digits) (large : 310 < places) :
    ofRatio negative (digits * 10 ^ places) 1 = .infinite negative := by
  obtain ⟨tens, more, rfl, manyTens⟩ : ∃ tens more, places = 10 * tens + more ∧
      1025 ≤ 33 * tens + 3 * more := ⟨places / 10, places % 10, by omega, by omega⟩
  have power : 2 ^ (33 * tens + 3 * more) ≤ 10 ^ (10 * tens + more) := by
    rw [Nat.pow_add, Nat.pow_add]
    exact Nat.mul_le_mul (two_pow_le_ten_pow_ten tens) (two_pow_le_ten_pow more)
  apply ofRatio_of_large negative manyTens
  calc
    2 ^ (33 * tens + 3 * more) ≤ 10 ^ (10 * tens + more) := power
    _ ≤ digits * 10 ^ (10 * tens + more) := Nat.le_mul_of_pos_left _ positive

theorem ofDecimal_of_nonneg (nonzero : digits ≠ 0) (whole : 0 ≤ exponent) :
    ofDecimal negative digits exponent = ofRatio negative (digits * 10 ^ exponent.toNat) 1 := by
  unfold ofDecimal
  rw [if_neg nonzero, if_pos whole]
  by_cases large : 310 < exponent
  · rw [if_pos large]
    exact (ofRatio_ten_pow_of_large negative (Nat.pos_of_ne_zero nonzero) (by omega)).symm
  · rw [if_neg large]
    rfl

-- A decimal that begins 400 or more places behind the point is less than half of the least positive
-- value.
theorem ofRatio_ten_pow_of_small {places : Nat} (small : digits.log2 + 400 < places) :
    ofRatio negative digits (10 ^ places) = zero negative := by
  have positive : 0 < unitsPerOne := by
    rw [unitsPerOne_eq_pow]
    exact Nat.two_pow_pos unitBits
  have units : unitsPerOne * digits < unitsPerOne * 2 ^ (digits.log2 + 1) :=
    Nat.mul_lt_mul_of_pos_left Nat.lt_log2_self positive
  have bits := unitBits_eq
  apply ofRatio_of_small
  calc
    2 * (unitsPerOne * digits) < 2 * (unitsPerOne * 2 ^ (digits.log2 + 1)) := by omega
    _ = 2 ^ (1 + (unitBits + (digits.log2 + 1))) := by
      rw [unitsPerOne_eq_pow, Nat.pow_add 2 1, Nat.pow_add 2 unitBits, Nat.pow_one]
    _ ≤ 2 ^ (3 * places) := Nat.pow_le_pow_right (by decide) (by omega)
    _ ≤ 10 ^ places := two_pow_le_ten_pow places

theorem ofDecimal_of_neg (nonzero : digits ≠ 0) (fractional : exponent < 0) :
    ofDecimal negative digits exponent = ofRatio negative digits (10 ^ (-exponent).toNat) := by
  unfold ofDecimal
  rw [if_neg nonzero, if_neg (Int.not_le.mpr fractional)]
  by_cases small : digits.log2 + 400 < (-exponent).toNat
  · rw [if_pos small]
    exact (ofRatio_ten_pow_of_small negative small).symm
  · rw [if_neg small]
    rfl

-- Zeros at the end of a decimal's digits may move into its exponent.
theorem ofDecimal_shift (digits places : Nat) (exponent : Int) :
    ofDecimal negative (digits * 10 ^ places) (exponent - places) =
      ofDecimal negative digits exponent := by
  by_cases nonzero : digits = 0
  · subst nonzero
    rw [Nat.zero_mul, ofDecimal_zero, ofDecimal_zero]
  have power (count : Nat) : 0 < 10 ^ count := Nat.pow_pos (by decide)
  have shifted : digits * 10 ^ places ≠ 0 := Nat.mul_ne_zero nonzero (Nat.ne_of_gt (power places))
  -- the exponents are of one sign or the shift goes past zero
  by_cases whole : 0 ≤ exponent - places
  · rw [ofDecimal_of_nonneg negative shifted whole,
      ofDecimal_of_nonneg negative nonzero (by omega), Nat.mul_assoc, ← Nat.pow_add]
    congr 3
    omega
  · rw [ofDecimal_of_neg negative shifted (by omega)]
    by_cases fractional : exponent < 0
    · have split : (-(exponent - places)).toNat = (-exponent).toNat + places := by omega
      rw [ofDecimal_of_neg negative nonzero fractional, split, Nat.pow_add]
      exact ofRatio_mul negative (power places)
    · have split : places = exponent.toNat + (-(exponent - places)).toNat := by omega
      rw [ofDecimal_of_nonneg negative nonzero (by omega)]
      generalize (-(exponent - places)).toNat = rest at split
      rw [split, Nat.pow_add, ← Nat.mul_assoc]
      have lower := @ofRatio_mul negative (digits * 10 ^ exponent.toNat) 1 _ (power rest)
      rwa [Nat.one_mul] at lower

theorem ofDecimal_false_negate (digits : Nat) (exponent : Int) :
    (ofDecimal false digits exponent).negate = ofDecimal true digits exponent := by
  have ratio (num den : Nat) : (ofRatio false num den).negate = ofRatio true num den := by
    unfold ofRatio
    generalize Rank.ofRatio? num den = result
    cases result <;> rfl
  unfold ofDecimal
  split
  · rfl
  · split
    · split
      · rfl
      · exact ratio _ _
    · split
      · rfl
      · exact ratio _ _

end Decimals

namespace Rank

/-- The place of a rank in its binade. Beyond the first binade it has 53 bits. -/
def head (rank : Rank) : Nat := rank.val - perExponent * rank.binade

theorem units_eq (rank : Rank) : rank.units = rank.head * 2 ^ rank.binade := rfl

theorem binade_add_head (rank : Rank) : perExponent * rank.binade + rank.head = rank.val := by
  unfold head binade perExponent
  omega

theorem head_lt (rank : Rank) : rank.head < 2 ^ 53 := by
  unfold head binade perExponent
  omega

theorem le_head {rank : Rank} (later : 0 < rank.binade) : 2 ^ 52 ≤ rank.head := by
  unfold binade perExponent at later
  unfold head binade perExponent
  omega

theorem log2_units (rank : Rank) : rank.units.log2 - 52 = rank.binade := by
  rw [units_eq]
  cases later : rank.binade with
  | zero =>
    -- the first binade has no leading bit
    by_cases zero : rank.head = 0
    · simp [zero]
    · have := (Nat.log2_lt zero).mpr rank.head_lt
      simp only [Nat.pow_zero, Nat.mul_one]
      omega
  | succ binade =>
    have low : 2 ^ 52 ≤ rank.head := le_head (by omega)
    have high := rank.head_lt
    have power := Nat.two_pow_pos (binade + 1)
    have log : (rank.head * 2 ^ (binade + 1)).log2 = 52 + (binade + 1) := by
      apply (Nat.log2_eq_iff (Nat.ne_of_gt (Nat.mul_pos (by omega) power))).mpr
      constructor
      · rw [Nat.pow_add]
        exact Nat.mul_le_mul_right _ low
      · rw [Nat.add_right_comm, Nat.pow_add 2 (52 + 1)]
        exact Nat.mul_lt_mul_of_pos_right high power
    rw [log]
    omega

theorem units_ne_zero {rank : Rank} (nonzero : rank.val ≠ 0) : rank.units ≠ 0 := by
  have head : rank.head ≠ 0 := by
    intro zero
    have own := rank.binade_add_head
    have first : ¬ 0 < rank.binade := by
      intro later
      have := le_head later
      omega
    have : rank.binade = 0 := by omega
    rw [this, zero] at own
    exact nonzero own.symm
  exact Nat.mul_ne_zero head (Nat.ne_of_gt (Nat.two_pow_pos rank.binade))

/-- A value is its own nearest value. -/
theorem nearestRank_units (rank : Rank) : nearestRank rank.units unitsPerOne = rank.val := by
  have positive : 0 < unitsPerOne := by
    rw [unitsPerOne_eq_pow]
    exact Nat.two_pow_pos unitBits
  have lowest := rankOfUnits_mul rank.units 1 positive
  rw [Nat.one_mul, Nat.mul_comm] at lowest
  rw [nearestRank_eq, lowest, rankOfUnits, Nat.div_one, log2_units, units_eq]
  rw [roundEven_mul _ _ (Nat.two_pow_pos _), roundEven_one, binade_add_head]

-- The exact decimal of a value reads back to it.
theorem ofDecimal_exact (negative : Bool) {rank : Rank} (nonzero : rank.val ≠ 0) :
    ofDecimal negative rank.exact (-1074) = .finite negative rank := by
  have factors : 10 ^ unitBits = unitsPerOne * 5 ^ unitBits := by
    rw [unitsPerOne_eq_pow, ← Nat.mul_pow]
  have exact_eq : rank.exact = rank.units * 5 ^ unitBits := by
    unfold exact unitBits
    generalize 1074 = bits
    exact Nat.mul_comm _ _
  have exponent : (-1074 : Int) = -(unitBits : Int) := by
    rw [unitBits_eq]
    rfl
  rw [exact_eq, exponent, ofDecimal_of_neg]
  · rw [Int.neg_neg, Int.toNat_natCast, factors, ofRatio_mul negative (Nat.pow_pos (by decide))]
    exact ofRatio_of_rank negative rank.nearestRank_units
  · exact Nat.mul_ne_zero (units_ne_zero nonzero) (Nat.ne_of_gt (Nat.pow_pos (by decide)))
  · rw [unitBits_eq]
    decide

end Rank

end StreamPlan.Binary64
