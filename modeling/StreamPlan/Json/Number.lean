import StreamPlan.Binary64.Shortest
import StreamPlan.Decimal.Numeral
import StreamPlan.Json.Value

/-! The numbers of JSON documents. Integers are exact. Fractions are read by scaling: the leading
digits that fit 64 bits are rounded to binary64, and the result is multiplied or divided by a
power of ten in binary64 arithmetic. Long fractions may so end up beside the nearest value. -/

set_option autoImplicit false

namespace StreamPlan.Json.Number

open Binary64 (Rank)

def layout : Decimal.Layout :=
  { tie := .toEven, leastPoint := -4, greatestPoint := 16, plusSign := true }

-- The value of an integer. It has no fraction or exponent, and minus zero is none.
def integer? (text : String) : Option Int :=
  if text.toList = ['-', '0'] then none else Numeral.integer? text.toList

-- Takes digits as long as the number they make fits 64 bits; what is left comes second.
def takeDigits (significand : Nat) : List Char → Nat × List Char
  | [] => (significand, [])
  | digit :: rest =>
    let next := significand * 10 + (digit.toNat - '0'.toNat)
    if next < UInt64.size then takeDigits next rest else (significand, digit :: rest)

def times? (first second : Rank) : Option Rank :=
  Rank.ofRatio? (first.units * second.units) (Nat.pow 2 2148)

def over? (first second : Rank) : Option Rank := Rank.ofRatio? first.units second.units

def powerOfTen? (exponent : Nat) : Option Rank := Rank.ofRatio? (Nat.pow 10 exponent) 1

/-- Division by `10 ^ 308` as often as `steps` says, then by `10 ^ last`. -/
def scaleDown? (value : Rank) (last : Nat) : Nat → Option Rank
  | 0 => (powerOfTen? last).bind (over? value)
  | steps + 1 =>
    if value.val = 0 then some value
    else ((powerOfTen? 308).bind (over? value)).bind fun smaller => scaleDown? smaller last steps

def scaleUp? (value : Rank) (exponent : Nat) : Option Rank :=
  if exponent ≤ 308 then (powerOfTen? exponent).bind (times? value)
  else if value.val = 0 then some value
  else none

/-- The binary64 number of a numeral, read by scaling; none on overflow. -/
def scaled? (numeral : Numeral) : Option Binary64 :=
  let (whole, wholeLeft) := takeDigits 0 numeral.whole
  let (significand, fractionLeft) := takeDigits whole numeral.fraction
  let taken : Nat := numeral.fraction.length - fractionLeft.length
  let exponent := numeral.exponent + wholeLeft.length - taken
  let value := (Rank.ofRatio? significand 1).bind fun value =>
    if 0 ≤ exponent then scaleUp? value exponent.toNat
    else
      let steps := ((-exponent).toNat - 1) / 308
      scaleDown? value ((-exponent).toNat - 308 * steps) steps
  value.map (.finite numeral.negative)

def binary64? (text : String) : Option Binary64 := (Numeral.ofChars? text.toList).bind scaled?

end Number

namespace Value

-- A binary64 number; what is not finite has no number form and is written as `null`.
def binary64 (x : Binary64) : Value :=
  match x.text? Number.layout with
  | some text => .number text
  | none => .null

def integer (n : Int) : Value := .number (Decimal.intText n)

end Value
end StreamPlan.Json
