/-
This file makes the rational numbers usable as weights. Over them the model
computes exactly; a weight is any rational number that is not negative.
-/

import Mathlib
import RecursiveBayes.Scalar.Basic

namespace RecursiveBayes

instance : Scalar ℚ where
  isZero number := number = 0
  isPositive number := 0 < number
  isWeight number := 0 ≤ number
  sum numbers := numbers.sum

end RecursiveBayes
