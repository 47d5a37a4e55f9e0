/-! Binary64 numbers as exact values. The nonnegative finite values are numbered in ascending
order, so a value is a sign and a rank and has one representation only. -/

set_option autoImplicit false

namespace StreamPlan

/-- The nonnegative finite values, numbered from zero upwards. The number of a value is also its
bit pattern, and the bound is the pattern of infinity. -/
abbrev Binary64.Rank := Fin 0x7FF0000000000000

inductive Binary64 where
  | finite (negative : Bool) (rank : Binary64.Rank)
  | infinite (negative : Bool)
  | nan
  deriving DecidableEq, Repr

namespace Binary64

abbrev perExponent : Nat := 0x10000000000000

-- The binade of a rank. The spacing of values doubles from one binade to the next; the values with
-- the two lowest exponents are spaced alike and make up the first.
def Rank.binade (rank : Rank) : Nat := rank.val / perExponent - 1

/-- The value of a rank as a multiple of 2^-1074, the smallest positive value. -/
def Rank.units (rank : Rank) : Nat :=
  (rank.val - perExponent * rank.binade) * Nat.pow 2 rank.binade

def zero (negative : Bool) : Binary64 := .finite negative ⟨0, by decide⟩

def isFinite : Binary64 → Bool
  | .finite _ _ => true
  | _ => false

def negate : Binary64 → Binary64
  | .finite negative rank => .finite (!negative) rank
  | .infinite negative => .infinite (!negative)
  | .nan => .nan

def sameNumber : Binary64 → Binary64 → Bool
  | .finite negative rank, .finite negative' rank' =>
    rank == rank' && (negative == negative' || rank.val == 0)
  | .infinite negative, .infinite negative' => negative == negative'
  | _, _ => false

end Binary64
end StreamPlan
