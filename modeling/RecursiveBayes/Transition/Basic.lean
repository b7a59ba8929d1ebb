/-
This file joins the two kinds of transitions: a value of a variable either emits
a symbol or splits its span.
-/

import RecursiveBayes.Transition.Binary
import RecursiveBayes.Transition.Terminal

namespace RecursiveBayes

/-- A way to explain a span. -/
inductive Transition (α : Type) [Scalar α] where
  | terminal (transition : TerminalTransition α)
  | binary (transition : BinaryTransition α)

namespace Transition

variable {α : Type} [Scalar α]

/-- The number of values that the transition explains. -/
def parentCardinality : Transition α → Nat
  | terminal transition => transition.parentCardinality
  | binary transition => transition.parentCardinality

/-- The transition emits a symbol. -/
def isTerminal : Transition α → Bool
  | terminal _ => true
  | binary _ => false

end Transition

end RecursiveBayes
