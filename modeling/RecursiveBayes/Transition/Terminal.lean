/-
This file holds terminal transitions: the ways in which a value of a variable
emits one observed symbol and ends the recursion. A symbol that the transition
does not know, or an observation that is no symbol at all, is emitted with
probability zero by every value.
-/

import RecursiveBayes.Weights.Conditional

namespace RecursiveBayes

/-- The emission of one observed symbol, conditioned on the value that emits it. -/
structure TerminalTransition (α : Type) [Scalar α] where
  table : ConditionalTable α 1

namespace TerminalTransition

variable {α : Type} [Scalar α]

/-- The name under which a terminal transition is reported. -/
def holder : String := "terminal transition"

/-- The terminal transition with the given weights. -/
def build (weights : Tensor α 1) : Built α (TerminalTransition α) := do
  let table ← ConditionalTable.build holder weights
  return ⟨table⟩

/-- The number of symbols that the transition knows. -/
def terminalCardinality (transition : TerminalTransition α) : Nat :=
  transition.table.outcomes[0]

/-- The number of values that may emit. -/
def parentCardinality (transition : TerminalTransition α) : Nat :=
  transition.table.parents

/-- The probability that a value emits a symbol; zero if there is no such value or symbol. -/
def probability (transition : TerminalTransition α) (parent symbol : Nat) : α :=
  transition.table.probabilities.entry symbol parent

/-- The probability of an observation for every value that may emit it. -/
def emission (transition : TerminalTransition α) : Option Nat → ValueVector α
  | none => ValueVector.zeros transition.parentCardinality
  | some symbol =>
    if symbol < transition.terminalCardinality then
      transition.table.probabilities.row symbol
    else
      ValueVector.zeros transition.parentCardinality

end TerminalTransition

end RecursiveBayes
