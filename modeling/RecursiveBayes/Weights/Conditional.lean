/-
This file holds checked tables of weights together with their probabilities. A
conditional table is accepted when every entry is a weight and no axis is empty.
The probabilities are stored beside the weights, with a proof that they are the
normalized weights, so they are computed once and never go out of step.
-/

import RecursiveBayes.Weights.Validation

namespace RecursiveBayes

/-- A table of weights without invalid entries and without empty axes, and the distribution
over outcomes that it gives each parent value. -/
structure ConditionalTable (α : Type) (rank : Nat) [Scalar α] where
  weights : Tensor α rank
  probabilities : Tensor α rank
  weights_valid : weights.firstInvalid? = none
  weights_nonempty : weights.isEmpty = false
  /-- The probabilities are the shares of the weights in the total of their parent value. -/
  probabilities_eq : probabilities = weights.normalized

namespace ConditionalTable

variable {α : Type} [Scalar α] {rank : Nat}

/-- Accept a table of weights. An invalid weight is reported before an empty axis. -/
def build (holder : String) (weights : Tensor α rank) : Built α (ConditionalTable α rank) :=
  match valid : weights.firstInvalid? with
  | some weight => malformed (.invalidWeight holder weight)
  | none =>
    if empty : weights.isEmpty = true then
      malformed (.emptyAxis holder)
    else
      .ok ⟨weights, weights.normalized, valid, Bool.eq_false_iff.mpr empty, rfl⟩

/-- The sizes of the axes of outcomes. -/
def outcomes (table : ConditionalTable α rank) : Vector Nat rank :=
  table.weights.outcomes

/-- The number of parent values. -/
def parents (table : ConditionalTable α rank) : Nat :=
  table.weights.parents

theorem parents_probabilities (table : ConditionalTable α rank) :
    table.probabilities.parents = table.parents := by
  rw [table.probabilities_eq]
  rfl

end ConditionalTable

end RecursiveBayes
