/-
This file checks weights where a model takes them in. The first weight that is
negative, infinite or not a number is reported together with the thing that
holds it.
-/

import RecursiveBayes.Failure.Fault
import RecursiveBayes.Weights.Tensor

namespace RecursiveBayes

variable {α : Type} [Scalar α]

/-- Report an invalid weight, if there is one. -/
def reportInvalid (holder : String) : Option α → Built α Unit
  | none => .ok ()
  | some weight => malformed (.invalidWeight holder weight)

/-- Check that every entry of a vector is a weight. -/
def ValueVector.validate (vector : ValueVector α) (holder : String) : Built α Unit :=
  reportInvalid holder vector.firstInvalid?

/-- Check that every entry of a table is a weight. -/
def Tensor.validate {rank : Nat} (tensor : Tensor α rank) (holder : String) : Built α Unit :=
  reportInvalid holder tensor.firstInvalid?

end RecursiveBayes
