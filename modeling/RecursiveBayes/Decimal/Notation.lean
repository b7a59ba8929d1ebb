/-
This file writes numbers. There are two written forms. The positional form shows
the fewest digits that identify the number, however many zeros stand before or
behind them, and has no point when no digit stands behind it. The scientific form
shows one digit before the point and a fixed number behind it, and an exponent
without padding. Both show the sign of zero; what is no number has no sign.
-/

import RecursiveBayes.Decimal.Digits

namespace RecursiveBayes.Decimal

/-- The digits of a number, padded with zeros on the left up to a width. -/
def paddedDigits (width number : Nat) : List Char :=
  let digits := Nat.toDigits 10 number
  List.replicate (width - digits.length) '0' ++ digits

/-- Digits with a point before the last `places` of them, and no point if there are none. -/
def pointed (places number : Nat) : List Char :=
  if places = 0 then
    paddedDigits 1 number
  else
    let digits := paddedDigits (places + 1) number
    digits.take (digits.length - places) ++ '.' :: digits.drop (digits.length - places)

/-- Move zeros at the end of `digits` into the exponent, as many as the exponent is below
zero. -/
def stripZeros : Nat → Nat → Nat × Nat
  | 0, digits => (0, digits)
  | places + 1, digits =>
    if digits % 10 = 0 then stripZeros places (digits / 10) else (places + 1, digits)

/-- A decimal without an exponent. -/
def Numeral.positional (decimal : Numeral) : List Char :=
  let (places, digits) :=
    stripZeros (-decimal.exponent).toNat (decimal.digits * Nat.pow 10 decimal.exponent.toNat)
  pointed places digits

/-- A decimal with `places` digits behind the first, and an exponent. -/
def Numeral.scientific (places : Nat) (decimal : Numeral) : List Char :=
  pointed places decimal.digits ++ 'e' :: (toString (decimal.exponent + places)).toList

/-- The written form of a number, given that of positive numbers and of zero. -/
def Signed.write (number : Signed) (zero : List Char) (positive : Dyad → List Char) : String :=
  match number.magnitude with
  | .notANumber => "NaN"
  | .infinite => if number.negative then "-inf" else "inf"
  | .finite value =>
    let digits := if value.significand = 0 then zero else positive value
    String.ofList (if number.negative then '-' :: digits else digits)

/-- The positional form of a number. -/
def Signed.positional (number : Signed) : String :=
  number.write ['0'] fun value => value.shortest.positional

/-- The scientific form of a number with `places` digits behind the point. -/
def Signed.scientific (places : Nat) (number : Signed) : String :=
  number.write (Numeral.scientific places ⟨0, -(places : Int)⟩) fun value =>
    (value.fixed places).scientific places

end RecursiveBayes.Decimal
