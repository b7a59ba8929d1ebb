/-
This file makes 64-bit floating-point numbers usable as weights, with the
comparisons of their own arithmetic: both zeros are zero, and a number that is
not a number is neither zero nor positive nor a weight.

Numbers side by side are added up in eight interleaved sums, which are combined at
the end, before the numbers that do not fill another round of eight.
-/

import RecursiveBayes.Decimal.Notation
import RecursiveBayes.Scalar.Basic

namespace RecursiveBayes

namespace Binary64

/-- Add rounds of eight numbers to eight sums. Then combine the sums, each with the one four places
behind it, and add the numbers that are left one after the other. -/
def sumInRounds (first second third fourth fifth sixth seventh eighth : Float) :
    List Float → Float
  | a :: b :: c :: d :: e :: f :: g :: h :: rest =>
    sumInRounds (first + a) (second + b) (third + c) (fourth + d) (fifth + e) (sixth + f)
      (seventh + g) (eighth + h) rest
  | rest =>
    rest.foldl (fun sum number => sum + number)
      (0.0 + (first + fifth) + (second + sixth) + (third + seventh) + (fourth + eighth))

/-- The sum of numbers that lie side by side. -/
def sum : List Float → Float :=
  sumInRounds 0.0 0.0 0.0 0.0 0.0 0.0 0.0 0.0

end Binary64

instance : Scalar Float where
  zero := 0.0
  one := 1.0
  isZero number := number == 0.0
  isPositive number := 0.0 < number
  isWeight number := number.isFinite && !(number < 0.0)
  sum := Binary64.sum

instance : ScalarText Float where
  positional number := (Decimal.Signed.ofBits number.toBits).positional
  scientific places number := (Decimal.Signed.ofBits number.toBits).scientific places

/-- The fewest digits identify a tenth. -/
example : ScalarText.positional (0.1 : Float) = "0.1" := by decide +kernel

/-- Halfway between two decimals of the same length, the larger is written. -/
example : ScalarText.positional (2.98023223876953125e-8 : Float) = "0.000000029802322387695313" := by
  decide +kernel

/-- Large numbers are written without an exponent. -/
example : ScalarText.positional (-1e21 : Float) = "-1000000000000000000000" := by decide +kernel

/-- Halfway between two digits, the even one is written. -/
example : ScalarText.scientific 1 (2.25 : Float) = "2.2e0" := by decide +kernel

/-- Rounding up to a power of ten moves the exponent. -/
example : ScalarText.scientific 3 (9999.9 : Float) = "1.000e4" := by decide +kernel

/-- Negative zero keeps its sign. -/
example : ScalarText.scientific 9 (-0.0 : Float) = "-0.000000000e0" := by decide +kernel

end RecursiveBayes
