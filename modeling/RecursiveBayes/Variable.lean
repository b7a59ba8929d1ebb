/-
This file holds the discrete variables of a network. A variable takes the values
from zero up to its cardinality, and has at least one value.
-/

import RecursiveBayes.Failure.Fault

namespace RecursiveBayes

/-- A discrete variable with the values `0, …, cardinality - 1`. -/
structure Variable where
  cardinality : Nat
  cardinality_pos : 0 < cardinality
  deriving DecidableEq

/-- The variable with the given number of values, which has to be positive. -/
def Variable.build {α : Type} (cardinality : Nat) : Built α Variable :=
  if positive : 0 < cardinality then .ok ⟨cardinality, positive⟩ else malformed .noValues

end RecursiveBayes
