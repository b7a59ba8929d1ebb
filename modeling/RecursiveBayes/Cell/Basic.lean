/-
This file holds the cells of a network. A cell is a variable together with the
transitions that can explain its spans and one action weight per transition. The
choice among the transitions does not depend on the value of the variable: it is
one distribution for the whole cell, the normalized action weights.
-/

import RecursiveBayes.Transition.Basic
import RecursiveBayes.Variable

namespace RecursiveBayes

/-- A variable, its transitions and the choice among them. -/
structure Cell (α : Type) [Scalar α] where
  domain : Variable
  transitions : List (Transition α)
  weights : ValueVector α
  weights_valid : weights.firstInvalid? = none
  length_weights : weights.length = transitions.length
  /-- Every transition explains exactly the values of the variable. -/
  parents_eq : ∀ transition ∈ transitions, transition.parentCardinality = domain.cardinality

namespace Cell

variable {α : Type} [Scalar α]

/-- The name under which the action weights of a cell are reported. -/
def holder : String := "cell action weights"

/-- The first transition, with its position, whose parent axis does not fit the variable. -/
def firstMisfit? (domain : Variable) (transitions : List (Transition α)) :
    Option (Transition α × Nat) :=
  transitions.zipIdx.find? fun transition =>
    transition.1.parentCardinality ≠ domain.cardinality

/-- Where no transition is found not to fit, all of them fit. -/
theorem parents_eq_of_firstMisfit? {domain : Variable} {transitions : List (Transition α)}
    (fits : firstMisfit? domain transitions = none) :
    ∀ transition ∈ transitions, transition.parentCardinality = domain.cardinality := by
  intro transition member
  obtain ⟨position, inside, same⟩ := List.mem_iff_getElem.mp member
  have found := List.find?_eq_none.mp fits (transition, position)
    (List.mem_zipIdx_iff_getElem?.mpr (by
      rw [List.getElem?_eq_getElem inside, same]))
  simpa using found

/-- The cell with the given variable, action weights and transitions. Invalid weights are
reported first, then a wrong number of weights, then a transition that does not fit. -/
def build (domain : Variable) (weights : ValueVector α) (transitions : List (Transition α)) :
    Built α (Cell α) :=
  match valid : weights.firstInvalid? with
  | some weight => malformed (.invalidWeight holder weight)
  | none =>
    if lengths : weights.length = transitions.length then
      match fits : firstMisfit? domain transitions with
      | some (transition, position) =>
        malformed (.parentAxis position transition.parentCardinality domain.cardinality)
      | none =>
        .ok ⟨domain, transitions, weights, valid, lengths, parents_eq_of_firstMisfit? fits⟩
    else
      malformed (.actionCount weights.length transitions.length)

/-- The number of values of the cell's variable. -/
def cardinality (cell : Cell α) : Nat :=
  cell.domain.cardinality

/-- The probability of choosing each transition, in their order. -/
def actions (cell : Cell α) : ValueVector α :=
  cell.weights.normalized

theorem length_actions (cell : Cell α) : cell.actions.length = cell.transitions.length := by
  rw [actions, ValueVector.length_normalized, cell.length_weights]

end Cell

end RecursiveBayes
