import Mathlib.Algebra.Order.Field.Rat
import Mathlib.Data.Rat.Cast.Order
import Mathlib.Tactic.FieldSimp
import Mathlib.Tactic.Linarith
import StreamPlan.Proofs.Binary64.Rounding

/-! Rounding gives the nearest value, of two equally near ones the one with the even rank. The
finite values are looked at as the beginning of a sequence without end, in which the next power of
two follows the greatest of them; what is nearest to a later member is beyond the finite values. -/

set_option autoImplicit false

namespace StreamPlan.Binary64

structure IsNearest (value : Nat → ℚ) (x : ℚ) (place : Nat) : Prop where
  closest : ∀ other, |x - value place| ≤ |x - value other|
  even : ∀ other, other ≠ place → |x - value other| = |x - value place| → place % 2 = 0

section Sequence

variable {value : Nat → ℚ} {x : ℚ} {below place other : Nat}

theorem le_distance_of_le (ascending : StrictMono value) (before : other ≤ below) :
    x - value below ≤ |x - value other| :=
  (sub_le_sub_left (ascending.monotone before) x).trans (le_abs_self _)

theorem lt_distance_of_lt (ascending : StrictMono value) (before : other < below) :
    x - value below < |x - value other| :=
  (sub_lt_sub_left (ascending before) x).trans_le (le_abs_self _)

theorem le_distance_of_ge (ascending : StrictMono value) (behind : place ≤ other) :
    value place - x ≤ |x - value other| := by
  rw [abs_sub_comm]
  exact (sub_le_sub_right (ascending.monotone behind) x).trans (le_abs_self _)

theorem lt_distance_of_gt (ascending : StrictMono value) (behind : place < other) :
    value place - x < |x - value other| := by
  rw [abs_sub_comm]
  exact (sub_lt_sub_right (ascending behind) x).trans_le (le_abs_self _)

section Neighbours

variable (low : value below ≤ x) (high : x < value (below + 1))

include low high

theorem distance_neighbours :
    |x - value below| = x - value below ∧ |x - value (below + 1)| = value (below + 1) - x := by
  rw [abs_sub_comm x (value (below + 1))]
  exact ⟨abs_of_nonneg (sub_nonneg.mpr low), abs_of_pos (sub_pos.mpr high)⟩

variable (ascending : StrictMono value)

include ascending

theorem isNearest_lower (nearer : x - value below < value (below + 1) - x ∨
    x - value below = value (below + 1) - x ∧ below % 2 = 0) : IsNearest value x below := by
  obtain ⟨lower, -⟩ := distance_neighbours low high
  have least : x - value below ≤ value (below + 1) - x := nearer.elim le_of_lt fun tie => tie.1.le
  refine ⟨fun other => ?_, fun other different tie => ?_⟩
  · rw [lower]
    rcases Nat.lt_or_ge below other with behind | before
    · exact least.trans (le_distance_of_ge ascending behind)
    · exact le_distance_of_le ascending before
  · rw [lower] at tie
    rcases Nat.lt_or_gt_of_ne different with before | behind
    · exact absurd tie (lt_distance_of_lt ascending before).ne'
    · have farther := le_distance_of_ge ascending (x := x) (Nat.succ_le_of_lt behind)
      rcases nearer with less | ⟨-, even⟩
      · exact absurd tie (less.trans_le farther).ne'
      · exact even

theorem isNearest_upper (nearer : value (below + 1) - x < x - value below ∨
    value (below + 1) - x = x - value below ∧ (below + 1) % 2 = 0) :
    IsNearest value x (below + 1) := by
  obtain ⟨-, upper⟩ := distance_neighbours low high
  have least : value (below + 1) - x ≤ x - value below := nearer.elim le_of_lt fun tie => tie.1.le
  refine ⟨fun other => ?_, fun other different tie => ?_⟩
  · rw [upper]
    rcases Nat.lt_or_ge below other with behind | before
    · exact le_distance_of_ge ascending behind
    · exact least.trans (le_distance_of_le ascending before)
  · rw [upper] at tie
    rcases Nat.lt_or_gt_of_ne different with before | behind
    · have farther := le_distance_of_le ascending (x := x) (Nat.le_of_lt_succ before)
      rcases nearer with less | ⟨-, even⟩
      · exact absurd tie (less.trans_le farther).ne'
      · exact even
    · exact absurd tie (lt_distance_of_gt ascending behind).ne'

end Neighbours

/-- Where a number is behind a member is told by the part `rest` of the gap to the next member. -/
theorem isNearest_of_gap (ascending : StrictMono value) {rest gap : Nat} {scale : ℚ}
    (positive : 0 < scale) (inside : rest < gap) (lower : x - value below = rest / scale)
    (upper : value (below + 1) - x = (gap - rest) / scale) :
    IsNearest value x
      (if 2 * rest < gap ∨ 2 * rest = gap ∧ below % 2 = 0 then below else below + 1) := by
  have left : (rest : ℚ) < gap := Nat.cast_lt.mpr inside
  have low : value below ≤ x := by
    rw [← sub_nonneg, lower]
    exact div_nonneg (Nat.cast_nonneg rest) positive.le
  have high : x < value (below + 1) := by
    rw [← sub_pos, upper]
    exact div_pos (sub_pos.mpr left) positive
  split
  · rename_i nearer
    apply isNearest_lower low high ascending
    rw [lower, upper, div_lt_div_iff_of_pos_right positive, div_left_inj' positive.ne']
    rcases nearer with less | ⟨tie, even⟩
    · have : (2 * rest : ℚ) < gap := by exact_mod_cast less
      left
      linarith
    · have : (2 * rest : ℚ) = gap := by exact_mod_cast tie
      exact .inr ⟨by linarith, even⟩
  · rename_i farther
    rw [not_or, not_lt, not_and] at farther
    obtain ⟨more, tieOdd⟩ := farther
    apply isNearest_upper low high ascending
    rw [lower, upper, div_lt_div_iff_of_pos_right positive, div_left_inj' positive.ne']
    rcases Nat.lt_or_eq_of_le more with less | tie
    · have : (gap : ℚ) < 2 * rest := by exact_mod_cast less
      left
      linarith
    · have : (gap : ℚ) = 2 * rest := by exact_mod_cast tie
      have odd := tieOdd tie.symm
      exact .inr ⟨by linarith, by omega⟩

/-- What is below the middle between two members is nearest to one before the upper of them, if the
upper one is the even one. -/
theorem IsNearest.lt_iff (ascending : StrictMono value) (nearest : IsNearest value x place)
    (odd : below % 2 = 1) :
    place < below + 1 ↔ 2 * x < value below + value (below + 1) := by
  constructor
  · intro before
    by_contra beyond
    have near : |x - value (below + 1)| ≤ x - value below := by
      rw [abs_le]
      have next := ascending (Nat.lt_succ_self below)
      constructor <;> linarith
    have far := le_distance_of_le ascending (x := x) (Nat.le_of_lt_succ before)
    have closest := nearest.closest (below + 1)
    rcases Nat.lt_or_eq_of_le (Nat.le_of_lt_succ before) with earlier | rfl
    · have farther := lt_distance_of_lt ascending (x := x) earlier
      exact absurd (closest.trans near) (not_le.mpr farther)
    · have tie := le_antisymm (near.trans far) closest
      have even := nearest.even _ (Nat.succ_ne_self place) tie
      omega
  · intro middle
    by_contra beyond
    have next := ascending (Nat.lt_succ_self below)
    have far := le_distance_of_ge ascending (x := x) (Nat.le_of_not_lt beyond)
    have near : |x - value below| < value (below + 1) - x := by
      rw [abs_lt]
      constructor <;> linarith
    exact absurd (nearest.closest below) (not_le.mpr (near.trans_le far))

end Sequence

/-! The values by their ranks. -/

/-- The value of a rank in units of the least positive value. The ranks go on beyond the finite
ones. -/
def unitsAt (rank : Nat) : Nat :=
  (rank - perExponent * (rank / perExponent - 1)) * 2 ^ (rank / perExponent - 1)

/-- Within a binade, and at its end, values are equally spaced. -/
theorem unitsAt_add {binade head : Nat} (leading : binade = 0 ∨ perExponent ≤ head)
    (most : head ≤ 2 * perExponent) :
    unitsAt (perExponent * binade + head) = head * 2 ^ binade := by
  unfold unitsAt
  unfold perExponent at *
  rcases Nat.lt_or_eq_of_le most with less | rfl
  · have own : (0x10000000000000 * binade + head) / 0x10000000000000 - 1 = binade := by omega
    rw [own, Nat.add_sub_cancel_left]
  · have next : (0x10000000000000 * binade + 2 * 0x10000000000000) / 0x10000000000000 - 1 =
        binade + 1 := by omega
    have first : 0x10000000000000 * binade + 2 * 0x10000000000000 -
        0x10000000000000 * (binade + 1) = 0x10000000000000 := by omega
    rw [next, first, Nat.pow_succ]
    ring

theorem exists_binade (rank : Nat) : ∃ binade head, rank = perExponent * binade + head ∧
    head < 2 * perExponent ∧ (binade = 0 ∨ perExponent ≤ head) := by
  unfold perExponent
  exact ⟨rank / 0x10000000000000 - 1, rank - 0x10000000000000 * (rank / 0x10000000000000 - 1),
    by omega, by omega, by omega⟩

theorem unitsAt_strictMono : StrictMono unitsAt := by
  refine strictMono_nat_of_lt_succ fun rank => ?_
  obtain ⟨binade, head, rfl, most, leading⟩ := exists_binade rank
  rw [Nat.add_assoc, unitsAt_add leading most.le,
    unitsAt_add (leading.imp_right Nat.le_succ_of_le) most]
  exact Nat.mul_lt_mul_of_pos_right (Nat.lt_succ_self head) (Nat.two_pow_pos binade)

theorem unitsPerOne_pos : (0 : ℚ) < unitsPerOne := by
  rw [unitsPerOne_eq_pow]
  exact_mod_cast Nat.two_pow_pos unitBits

def valueAt (rank : Nat) : ℚ := unitsAt rank / unitsPerOne

theorem valueAt_strictMono : StrictMono valueAt := fun _ _ less =>
  div_lt_div_of_pos_right (Nat.cast_lt.mpr (unitsAt_strictMono less)) unitsPerOne_pos

-- The binade is chosen so that a quotient of units has 53 bits in it, or fewer in the first.
theorem leading_quotient (quotient : Nat) :
    quotient / 2 ^ (quotient.log2 - 52) < 2 * perExponent ∧
      (quotient.log2 - 52 = 0 ∨ perExponent ≤ quotient / 2 ^ (quotient.log2 - 52)) := by
  have positive := Nat.two_pow_pos (quotient.log2 - 52)
  constructor
  · rw [Nat.div_lt_iff_lt_mul positive]
    calc
      quotient < 2 ^ (quotient.log2 + 1) := Nat.lt_log2_self
      _ ≤ 2 ^ (53 + (quotient.log2 - 52)) := Nat.pow_le_pow_right (by decide) (by omega)
      _ = 2 ^ 53 * 2 ^ (quotient.log2 - 52) := Nat.pow_add 2 53 _
  · by_cases first : quotient.log2 - 52 = 0
    · exact .inl first
    · have nonzero : quotient ≠ 0 := by
        rintro rfl
        exact first (by simp)
      right
      rw [Nat.le_div_iff_mul_le positive]
      calc
        2 ^ 52 * 2 ^ (quotient.log2 - 52) = 2 ^ (52 + (quotient.log2 - 52)) :=
          (Nat.pow_add 2 52 _).symm
        _ = 2 ^ quotient.log2 := by
          congr 1
          omega
        _ ≤ quotient := Nat.log2_self_le nonzero

section Binade

variable {num den binade : Nat} (positive : 0 < den)

include positive

theorem sub_valueAt {head : Nat} (leading : binade = 0 ∨ perExponent ≤ head)
    (most : head ≤ 2 * perExponent) :
    num / den - valueAt (perExponent * binade + head) =
      (unitsPerOne * num - den * 2 ^ binade * head : ℚ) / (den * unitsPerOne) := by
  have perOne := unitsPerOne_pos
  have whole : (0 : ℚ) < den := Nat.cast_pos.mpr positive
  rw [valueAt, unitsAt_add leading most]
  push_cast
  field_simp

/-- Within a binade, rounding the number of its units to even finds the nearest value. -/
theorem isNearest_roundEven {below : Nat}
    (quotient : unitsPerOne * num / (den * 2 ^ binade) = below)
    (leading : binade = 0 ∨ perExponent ≤ below) (most : below < 2 * perExponent) :
    IsNearest valueAt (num / den)
      (perExponent * binade + roundEven (unitsPerOne * num) (den * 2 ^ binade)) := by
  have spacing : 0 < den * 2 ^ binade := Nat.mul_pos positive (Nat.two_pow_pos binade)
  have parts := Nat.div_add_mod (unitsPerOne * num) (den * 2 ^ binade)
  have inside := Nat.mod_lt (unitsPerOne * num) spacing
  rw [roundEven, quotient]
  rw [quotient] at parts
  generalize unitsPerOne * num % (den * 2 ^ binade) = rest at *
  have exact : (unitsPerOne * num : ℚ) = den * 2 ^ binade * below + rest := by
    exact_mod_cast parts.symm
  have scale : (0 : ℚ) < den * unitsPerOne := mul_pos (Nat.cast_pos.mpr positive) unitsPerOne_pos
  have lower : num / den - valueAt (perExponent * binade + below) = rest / (den * unitsPerOne) := by
    rw [sub_valueAt positive leading most.le, exact, add_sub_cancel_left]
  have upper : valueAt (perExponent * binade + below + 1) - num / den =
      ((den * 2 ^ binade : Nat) - rest) / (den * unitsPerOne) := by
    rw [← neg_sub, Nat.add_assoc,
      sub_valueAt positive (leading.imp_right Nat.le_succ_of_le) most, exact, ← neg_div]
    push_cast
    ring
  have nearest := isNearest_of_gap valueAt_strictMono scale inside lower upper
  have parity : (perExponent * binade + below) % 2 = below % 2 := by
    unfold perExponent
    omega
  rw [parity, Nat.add_assoc, ← apply_ite (perExponent * binade + ·)] at nearest
  exact nearest

end Binade

/-- A quotient is rounded to the value nearest to it. -/
theorem isNearest_nearestRank (num : Nat) {den : Nat} (positive : 0 < den) :
    IsNearest valueAt (num / den) (nearestRank num den) := by
  obtain ⟨most, leading⟩ := leading_quotient (unitsPerOne * num / den)
  rw [nearestRank_eq, rankOfUnits]
  generalize (unitsPerOne * num / den).log2 - 52 = binade at *
  rw [Nat.div_div_eq_div_mul] at most leading
  exact isNearest_roundEven positive rfl leading most

/-! The finite values. -/

/-- The middle between the greatest finite value and the next power of two. -/
def overflow : ℚ := 2 ^ 1024 - 2 ^ 970

def Rank.value (rank : Rank) : ℚ := rank.units / unitsPerOne

theorem Rank.value_eq (rank : Rank) : rank.value = valueAt rank.val := rfl

/-- The finite value that a nonnegative number is rounded to: the nearest one, of two equally near
ones that of even rank, unless the number is beyond the middle after the last. -/
structure RoundsTo (x : ℚ) (rank : Rank) : Prop where
  bounded : x < overflow
  closest : ∀ other : Rank, |x - rank.value| ≤ |x - other.value|
  even : ∀ other : Rank, other ≠ rank → |x - other.value| = |x - rank.value| → rank.val % 2 = 0

theorem RoundsTo.unique {x : ℚ} {rank rank' : Rank} (rounds : RoundsTo x rank)
    (rounds' : RoundsTo x rank') : rank = rank' := by
  -- of two different ones the lower may be taken as the first
  wlog before : rank.val ≤ rank'.val with swapped
  · exact (swapped rounds' rounds (Nat.le_of_not_le before)).symm
  by_contra different
  have tie := le_antisymm (rounds'.closest rank) (rounds.closest rank')
  have even := rounds.even rank' (Ne.symm different) tie
  have even' := rounds'.even rank different tie.symm
  have apart : rank.val ≠ rank'.val := fun same => different (Fin.ext same)
  -- a value between both is nearer
  have inside : rank.val + 1 < 0x7FF0000000000000 := by
    have := rank'.isLt
    omega
  have closest := rounds.closest ⟨rank.val + 1, inside⟩
  simp only [Rank.value_eq] at tie closest
  have low := valueAt_strictMono (show rank.val < rank.val + 1 by omega)
  have high := valueAt_strictMono (show rank.val + 1 < rank'.val by omega)
  rcases abs_eq_abs.mp tie with same | opposite
  · linarith
  · have near : |x - valueAt (rank.val + 1)| < |x - valueAt rank.val| := by
      rw [abs_of_nonneg (by linarith : 0 ≤ x - valueAt rank.val), abs_lt]
      constructor <;> linarith
    exact absurd closest (not_le.mpr near)

/-- In the last binade of the finite values they are spaced by this power of two. -/
theorem valueAt_last {head : Nat} (leading : perExponent ≤ head) (most : head ≤ 2 * perExponent) :
    valueAt (perExponent * 2045 + head) = head * 2 ^ 971 := by
  have power : (2 : ℚ) ^ (unitBits + 971) = unitsPerOne * 2 ^ 971 := by
    rw [pow_add, unitsPerOne_eq_pow, Nat.cast_pow, Nat.cast_ofNat]
  have perOne := unitsPerOne_pos.ne'
  rw [valueAt, unitsAt_add (.inr leading) most, show 2045 = unitBits + 971 by rw [unitBits_eq]]
  push_cast
  rw [power]
  field_simp

theorem valueAt_add_valueAt_succ :
    valueAt 0x7FEFFFFFFFFFFFFF + valueAt (0x7FEFFFFFFFFFFFFF + 1) = 2 * overflow := by
  have greatest := @valueAt_last (2 * perExponent - 1) (by decide) (by decide)
  have next := @valueAt_last (2 * perExponent) (by decide) (by decide)
  have power (bits : Nat) : (2 : ℚ) ^ (bits + 970) = 2 ^ bits * 2 ^ 970 := pow_add 2 bits 970
  rw [show perExponent * 2045 + (2 * perExponent - 1) = 0x7FEFFFFFFFFFFFFF by decide,
    show 971 = 1 + 970 by decide, power 1] at greatest
  rw [show perExponent * 2045 + 2 * perExponent = 0x7FEFFFFFFFFFFFFF + 1 by decide,
    show 971 = 1 + 970 by decide, power 1] at next
  rw [greatest, next, overflow, show 1024 = 54 + 970 by decide, power 54]
  generalize (2 : ℚ) ^ 970 = scale
  norm_num [perExponent]
  ring

section Quotients

variable {num den : Nat} (positive : 0 < den)

include positive

theorem nearestRank_lt_iff :
    nearestRank num den < 0x7FF0000000000000 ↔ (num / den : ℚ) < overflow := by
  have nearest := isNearest_nearestRank num positive
  have odd : 0x7FEFFFFFFFFFFFFF % 2 = 1 := by decide
  have lt_iff := nearest.lt_iff valueAt_strictMono odd
  rw [valueAt_add_valueAt_succ] at lt_iff
  exact lt_iff.trans (mul_lt_mul_iff_right₀ two_pos)

theorem ofRatio?_eq_some_iff {rank : Rank} :
    Rank.ofRatio? num den = some rank ↔ RoundsTo (num / den) rank := by
  have nearest := isNearest_nearestRank num positive
  have rounds (inside : nearestRank num den < 0x7FF0000000000000) :
      RoundsTo (num / den) ⟨nearestRank num den, inside⟩ := by
    refine ⟨(nearestRank_lt_iff positive).mp inside, fun other => nearest.closest other.val, ?_⟩
    intro other different
    exact nearest.even other.val fun same => different (Fin.ext same)
  unfold Rank.ofRatio?
  dsimp only
  constructor
  · intro found
    split at found
    · rename_i inside
      cases found
      exact rounds inside
    · cases found
  · intro rounds'
    have inside := (nearestRank_lt_iff positive).mpr rounds'.bounded
    rw [dif_pos inside, (rounds inside).unique rounds']

theorem ofRatio_eq_finite_iff {negative negative' : Bool} {rank : Rank} :
    ofRatio negative num den = .finite negative' rank ↔
      negative' = negative ∧ RoundsTo (num / den) rank := by
  rw [← ofRatio?_eq_some_iff positive, ofRatio]
  -- without a name for the result its evaluation is tried, and that does not end
  generalize Rank.ofRatio? num den = result
  cases result with
  | none => simp
  | some rank' => simp [eq_comm]

end Quotients

/-- All nonnegative numbers below the bound are rounded to a finite value. -/
theorem exists_roundsTo_iff {x : ℚ} (nonneg : 0 ≤ x) :
    (∃ rank, RoundsTo x rank) ↔ x < overflow := by
  constructor
  · rintro ⟨rank, rounds⟩
    exact rounds.bounded
  · intro bounded
    obtain ⟨num, den, positive, rfl⟩ : ∃ num den : Nat, 0 < den ∧ x = num / den := by
      obtain ⟨num, whole⟩ := Int.eq_ofNat_of_zero_le (Rat.num_nonneg.mpr nonneg)
      refine ⟨num, x.den, x.den_pos, ?_⟩
      rw [← Int.cast_natCast, ← whole, Rat.num_div_den]
    have inside := (nearestRank_lt_iff positive).mpr bounded
    exact ⟨⟨nearestRank num den, inside⟩, (ofRatio?_eq_some_iff positive).mp (dif_pos inside)⟩

/-- A decimal is rounded to the finite value nearest to it, with its sign. -/
theorem ofDecimal_eq_finite_iff {negative negative' : Bool} {digits : Nat} {exponent : Int}
    {rank : Rank} : ofDecimal negative digits exponent = .finite negative' rank ↔
      negative' = negative ∧ RoundsTo (digits * 10 ^ exponent) rank := by
  by_cases nonzero : digits = 0
  · subst nonzero
    have zero := @ofRatio_eq_finite_iff 0 1 one_pos negative negative' rank
    rw [ofRatio_of_small negative (by simp)] at zero
    rw [ofDecimal_zero, zero]
    simp
  by_cases whole : 0 ≤ exponent
  · obtain ⟨places, rfl⟩ := Int.eq_ofNat_of_zero_le whole
    rw [ofDecimal_of_nonneg negative nonzero whole, ofRatio_eq_finite_iff one_pos]
    push_cast
    simp
  · obtain ⟨places, rfl⟩ : ∃ places : Nat, exponent = -places := ⟨(-exponent).toNat, by omega⟩
    rw [ofDecimal_of_neg negative nonzero (by omega),
      ofRatio_eq_finite_iff (Nat.pow_pos (by decide))]
    push_cast
    simp [div_eq_mul_inv]

end StreamPlan.Binary64
