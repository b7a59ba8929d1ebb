/-
This file holds the prior of a network: which cell explains the whole sequence,
and with which value. The weights of both choices are normalized. A prior turns
the inside vectors at the root into the probability of the sequence.
-/

import RecursiveBayes.Weights.Validation

namespace RecursiveBayes

/-- Weights of the root cell and, for each cell, of its root values. -/
structure Prior (α : Type) [Scalar α] where
  /-- One weight for each cell. -/
  structuralWeights : ValueVector α
  /-- For each cell, one weight for each value. -/
  valueWeights : List (ValueVector α)
  structuralWeights_valid : structuralWeights.firstInvalid? = none
  length_structuralWeights : structuralWeights.length = valueWeights.length
  valueWeights_valid : ∀ weights ∈ valueWeights, ValueVector.firstInvalid? weights = none
  valueWeights_nonempty : ∀ weights ∈ valueWeights, weights ≠ []

namespace Prior

variable {α : Type} [Scalar α]

/-- The name under which the weights of the cells are reported. -/
def structuralHolder : String := "structural prior weights"

/-- The name under which the weights of the values are reported. -/
def valueHolder : String := "prior value weights"

/-! ### Building -/

/-- The first defect among the weights of the values: cell by cell, an invalid weight before a
missing one. -/
def firstDefect? (valueWeights : List (ValueVector α)) : Option (ModelDefect α) :=
  valueWeights.findSome? fun weights =>
    match weights.firstInvalid? with
    | some weight => some (.invalidWeight valueHolder weight)
    | none => if weights.isEmpty then some .noPriorValues else none

/-- Where no defect is found, every cell has values and all their weights are weights. -/
theorem sound_of_firstDefect? {valueWeights : List (ValueVector α)}
    (sound : firstDefect? valueWeights = none) (weights : ValueVector α)
    (member : weights ∈ valueWeights) : weights.firstInvalid? = none ∧ weights ≠ [] := by
  have here := List.findSome?_eq_none_iff.mp sound weights member
  split at here
  · simp at here
  · rename_i valid
    refine ⟨valid, fun empty => ?_⟩
    simp [empty] at here

/-- The prior with the given weights. -/
def build (structuralWeights : ValueVector α) (valueWeights : List (ValueVector α)) :
    Built α (Prior α) :=
  match valid : structuralWeights.firstInvalid? with
  | some weight => malformed (.invalidWeight structuralHolder weight)
  | none =>
    if lengths : structuralWeights.length = valueWeights.length then
      match sound : firstDefect? valueWeights with
      | some defect => malformed defect
      | none =>
        .ok ⟨structuralWeights, valueWeights, valid, lengths,
          fun weights member => (sound_of_firstDefect? sound weights member).1,
          fun weights member => (sound_of_firstDefect? sound weights member).2⟩
    else
      malformed (.structuralCount structuralWeights.length valueWeights.length)

/-! ### Reading -/

/-- The number of cells that the prior covers. -/
def cellCount (prior : Prior α) : Nat :=
  prior.valueWeights.length

/-- The probability of each cell to be the root. -/
def structural (prior : Prior α) : ValueVector α :=
  prior.structuralWeights.normalized

/-- For each cell, the distribution of the root value if the cell is the root. -/
def values (prior : Prior α) : List (ValueVector α) :=
  prior.valueWeights.map ValueVector.normalized

/-! ### The probability of the root -/

/-- Add the contribution of one cell: its probability times that of its root vector. -/
def addRoot (sum : α) (root : (α × ValueVector α) × ValueVector α) : Built α α :=
  if root.1.2.length = root.2.length then
    .ok (sum + root.1.1 * ValueVector.dot root.1.2 root.2)
  else
    malformed (.rootLength root.1.2.length root.2.length)

/-- The probability of a sequence, given the inside vectors of all cells for the whole of it. -/
def marginal (prior : Prior α) (roots : List (ValueVector α)) : Built α α :=
  if roots.length = prior.cellCount then
    ((prior.structural.zip prior.values).zip roots).foldlM addRoot 0
  else
    malformed (.rootCount prior.cellCount roots.length)

end Prior

end RecursiveBayes
