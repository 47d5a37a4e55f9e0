import StreamPlan.Binary64.Rounding

/-! Numbers as they are written: sign, digits, point and exponent. Digits are ASCII digits. -/

set_option autoImplicit false

namespace StreamPlan

structure Numeral where
  negative : Bool
  whole : List Char
  fraction : List Char
  exponent : Int
  deriving DecidableEq, Repr

namespace Numeral

def splitSign : List Char → Bool × List Char
  | '-' :: rest => (true, rest)
  | '+' :: rest => (false, rest)
  | cs => (false, cs)

def isDigits (cs : List Char) : Bool := !cs.isEmpty && cs.all Char.isDigit

def natOf (digits : List Char) : Nat := Nat.ofDigitChars 10 digits 0

def signed (negative : Bool) (n : Nat) : Int := if negative then -n else n

def integer? (cs : List Char) : Option Int :=
  let (negative, digits) := splitSign cs
  if isDigits digits then some (signed negative (natOf digits)) else none

def int64? (n : Int) : Option Int64 :=
  if Int64.minValue.toInt ≤ n ∧ n ≤ Int64.maxValue.toInt then some (Int64.ofInt n) else none

def exponent? : List Char → Option Int
  | [] => some 0
  | mark :: rest => if mark = 'e' ∨ mark = 'E' then integer? rest else none

def splitFraction : List Char → List Char × List Char
  | '.' :: rest => (rest.takeWhile Char.isDigit, rest.dropWhile Char.isDigit)
  | cs => ([], cs)

/-- A sign, digits with at most one point before, between or after them, and an exponent; all
but one digit may be missing. -/
def ofChars? (cs : List Char) : Option Numeral :=
  let (negative, unsigned) := splitSign cs
  let whole := unsigned.takeWhile Char.isDigit
  let (fraction, rest) := splitFraction (unsigned.dropWhile Char.isDigit)
  if whole.isEmpty && fraction.isEmpty then none
  else (exponent? rest).map fun exponent => { negative, whole, fraction, exponent }

def toBinary64 (numeral : Numeral) : Binary64 :=
  .ofDecimal numeral.negative (natOf (numeral.whole ++ numeral.fraction))
    (numeral.exponent - numeral.fraction.length)

end Numeral
end StreamPlan
