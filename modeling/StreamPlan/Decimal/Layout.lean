set_option autoImplicit false

namespace StreamPlan

structure Decimal where
  digits : Nat
  exponent : Int
  deriving DecidableEq, Repr

namespace Decimal

inductive Tie where
  | upward
  | toEven
  deriving DecidableEq, Repr

/-- The decisions a format makes about the text of a number. -/
structure Layout where
  tie : Tie
  -- Least and greatest count of digits before the point that are written without exponent; a count
  -- below one stands for zeros between the point and the first digit.
  leastPoint : Int
  greatestPoint : Int
  plusSign : Bool
  deriving DecidableEq, Repr

def natText (n : Nat) : String := String.ofList (Nat.toDigits 10 n)

def intText : Int → String
  | .ofNat n => natText n
  | .negSucc n => "-" ++ natText (n + 1)

/-- Digits with a point after the first `point` of them, and a digit on each side of it. -/
def positional (digits : List Char) (point : Int) : List Char :=
  let count := point.toNat
  if point ≤ 0 then '0' :: '.' :: (List.replicate (-point).toNat '0' ++ digits)
  else if count < digits.length then digits.take count ++ '.' :: digits.drop count
  else digits ++ List.replicate (count - digits.length) '0' ++ ['.', '0']

/-- One digit before the point, none after it where the rest is empty, and the exponent. -/
def scientific (plusSign : Bool) (digits : List Char) (point : Int) : List Char :=
  let exponent := point - 1
  let sign := if plusSign && decide (0 ≤ exponent) then ['+'] else []
  let fraction := match digits.drop 1 with
    | [] => []
    | rest => '.' :: rest
  digits.take 1 ++ fraction ++ 'e' :: (sign ++ (intText exponent).toList)

def Layout.write (layout : Layout) (decimal : Decimal) : List Char :=
  let digits := Nat.toDigits 10 decimal.digits
  let point := digits.length + decimal.exponent
  if layout.leastPoint ≤ point ∧ point ≤ layout.greatestPoint then positional digits point
  else scientific layout.plusSign digits point

end Decimal
end StreamPlan
