import StreamPlan.Binary64.Basic

/-! Rounding of exact quotients and decimals to the nearest binary64 number, ties to even. -/

set_option autoImplicit false

namespace StreamPlan.Binary64

def roundEven (num den : Nat) : Nat :=
  let below := num / den
  let twice := 2 * (num % den)
  if twice < den ∨ (twice = den ∧ below % 2 = 0) then below else below + 1

-- The rank nearest to `num / den`, not yet bounded. Within a binade consecutive ranks are equally
-- spaced, and rounding up at its end lands on the first rank of the next.
@[irreducible] def nearestRank (num den : Nat) : Nat :=
  let units := Nat.pow 2 1074 * num
  let binade := (units / den).log2 - 52
  perExponent * binade + roundEven units (den * Nat.pow 2 binade)

/-- The nearest finite value, unless the quotient rounds beyond the greatest one. -/
def Rank.ofRatio? (num den : Nat) : Option Rank :=
  let rank := nearestRank num den
  if h : rank < 0x7FF0000000000000 then some ⟨rank, h⟩ else none

def ofRatio (negative : Bool) (num den : Nat) : Binary64 :=
  match Rank.ofRatio? num den with
  | some rank => .finite negative rank
  | none => .infinite negative

-- The binary64 number nearest to `digits * 10 ^ exponent`. Exponents so large that the result is
-- infinite, or so small that it is zero, are settled before the power is computed.
def ofDecimal (negative : Bool) (digits : Nat) (exponent : Int) : Binary64 :=
  if digits = 0 then zero negative
  else if 0 ≤ exponent then
    if 310 < exponent then .infinite negative
    else ofRatio negative (digits * Nat.pow 10 exponent.toNat) 1
  else if digits.log2 + 400 < (-exponent).toNat then zero negative
  else ofRatio negative digits (Nat.pow 10 (-exponent).toNat)

end StreamPlan.Binary64
