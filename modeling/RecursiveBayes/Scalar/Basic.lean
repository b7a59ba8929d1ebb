/-
This file says what the model needs of its numbers. The inside pass adds,
multiplies and divides weights, compares them with zero, and rejects those that
are no weights. It assumes no law of arithmetic, so the same definitions run on
floating-point numbers and are reasoned about over the rational numbers.

Where a sum depends on the order of its additions, the order is part of the model.
Numbers that lie side by side in memory are summed up as a whole, in an order that
belongs to the kind of number.
-/

namespace RecursiveBayes

/-- Numbers that can serve as weights and probabilities. -/
class Scalar (α : Type) extends Zero α, One α, Add α, Mul α, Div α where
  /-- The number equals zero. -/
  isZero : α → Bool
  /-- The number is greater than zero. -/
  isPositive : α → Bool
  /-- The number is finite and not below zero. -/
  isWeight : α → Bool
  /-- The sum of numbers that lie side by side in memory. -/
  sum : List α → α

/-- Numbers that can be written in the reports of the library. -/
class ScalarText (α : Type) where
  /-- The fewest digits that identify the number, without an exponent. -/
  positional : α → String
  /-- One digit before the point, the given number of digits behind it, and an exponent. -/
  scientific : Nat → α → String

end RecursiveBayes
