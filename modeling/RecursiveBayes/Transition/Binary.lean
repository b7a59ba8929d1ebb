/-
This file holds binary transitions: the ways in which a value of a variable
splits its span into a left and a right part. The parts are explained by the
cells that the transition names, or by the cell that owns it.

There are two ways to weigh the children's inside vectors. The joint probability
treats one parent value and sums over right values inside left values. The
expectation treats all parent values at once, takes the right values one after
the other, and passes over those without weight before it looks at the left
vector at all.
-/

import RecursiveBayes.Weights.Conditional

namespace RecursiveBayes

/-- The split of a span in two, conditioned on the value of the whole. -/
structure BinaryTransition (α : Type) [Scalar α] where
  /-- The table over left values, right values and parent values. -/
  table : ConditionalTable α 2
  /-- The cells of the left and the right child, if they are not the owning cell. -/
  children : Option (Nat × Nat)

namespace BinaryTransition

variable {α : Type} [Scalar α]

/-- The name under which a binary transition is reported. -/
def holder : String := "binary transition"

/-- The binary transition with the given weights and children. -/
def build (weights : Tensor α 2) (children : Option (Nat × Nat)) :
    Built α (BinaryTransition α) := do
  let table ← ConditionalTable.build holder weights
  return ⟨table, children⟩

/-- The cell of the left child, for a transition of the cell `owner`. -/
def leftIndex (transition : BinaryTransition α) (owner : Nat) : Nat :=
  (transition.children.map Prod.fst).getD owner

/-- The cell of the right child, for a transition of the cell `owner`. -/
def rightIndex (transition : BinaryTransition α) (owner : Nat) : Nat :=
  (transition.children.map Prod.snd).getD owner

/-- The number of values of the left child. -/
def leftCardinality (transition : BinaryTransition α) : Nat :=
  transition.table.outcomes[0]

/-- The number of values of the right child. -/
def rightCardinality (transition : BinaryTransition α) : Nat :=
  transition.table.outcomes[1]

/-- The number of values that may split. -/
def parentCardinality (transition : BinaryTransition α) : Nat :=
  transition.table.parents

/-- The probability that a parent value splits into a left and a right value. -/
def probability (transition : BinaryTransition α) (left right parent : Nat) : α :=
  transition.table.probabilities.entry (left * transition.rightCardinality + right) parent

/-! ### One parent value -/

/-- The probability of the right vector for one left value and one parent value. -/
def rightTotal (transition : BinaryTransition α) (parent left : Nat) (right : ValueVector α) : α :=
  right.weightedTotal transition.parentCardinality fun value =>
    transition.probability left value parent

/-- The sum over left and right values of the probability of the pair and the entries of the two
vectors, for one parent value. The vectors have to fit the axes. -/
def jointProbability (transition : BinaryTransition α) (parent : Nat)
    (left right : ValueVector α) : Checked α :=
  if transition.parentCardinality ≤ parent then
    .error .indexOutOfRange
  else if right.length ≠ transition.rightCardinality ∨
      left.length ≠ transition.leftCardinality then
    .error .lengthMismatch
  else
    .ok (ValueVector.dot left
      ((List.range transition.leftCardinality).map fun value =>
        transition.rightTotal parent value right))

/-! ### All parent values -/

/-- The probability of the left vector for one right value, for every parent value. -/
def leftTotals (transition : BinaryTransition α) (left : ValueVector α) (right : Nat) :
    ValueVector α :=
  (List.range transition.parentCardinality).map fun parent =>
    left.weightedTotal (transition.rightCardinality * transition.parentCardinality) fun value =>
      transition.probability value right parent

/-- Add the contribution of one right value. A right value without weight contributes nothing,
whatever the left vector is. -/
def addRight (transition : BinaryTransition α) (left right : ValueVector α)
    (sum : ValueVector α) (value : Nat) : Checked (ValueVector α) :=
  match right[value]? with
  | none => .error .indexOutOfRange
  | some weight =>
    if Scalar.isZero weight then
      .ok sum
    else if left.length ≠ transition.leftCardinality then
      .error .lengthMismatch
    else
      .ok (sum.addScaled weight (transition.leftTotals left value))

/-- The sum over left and right values of the probability of the pair and the entries of the two
vectors, for every parent value. -/
def expectation (transition : BinaryTransition α) (left right : ValueVector α) :
    Checked (ValueVector α) :=
  (List.range transition.rightCardinality).foldlM (transition.addRight left right)
    (ValueVector.zeros transition.parentCardinality)

end BinaryTransition

end RecursiveBayes
