/-
This file computes the inside vector of a cell for one span: for every value of
the cell's variable, the probability that the value generates exactly the symbols
of the span. A span of length one is explained by the terminal transitions, a
longer one by the binary transitions, summed over every split of the span, with
the inside vectors of the parts read from the chart.

A transition that is never chosen is passed over before anything else is looked
at, so it neither reads the chart nor asks for the length of the span.
-/

import RecursiveBayes.Cell.Basic
import RecursiveBayes.Chart.Inside
import RecursiveBayes.Chart.Terminal

namespace RecursiveBayes

variable {α : Type} [Scalar α]

/-- Add the contribution of one split of a span to the vector of a binary transition. The left
part is read before the right one. -/
def BinaryTransition.addSplit (transition : BinaryTransition α) (owner : Nat)
    (chart : InsideChart α) (sum : ValueVector α) (parts : Span × Span) :
    Outcome α (ValueVector α) := do
  let left ← chart.require (transition.leftIndex owner) parts.1
  let right ← chart.require (transition.rightIndex owner) parts.2
  let contribution ← transition.expectation left right
  return sum.add contribution

/-- The vector of a binary transition of the cell `owner` for a span, summed over the splits of
the span by ascending split point. -/
def BinaryTransition.inside (transition : BinaryTransition α) (owner : Nat) (span : Span)
    (chart : InsideChart α) (cardinality : Nat) : Outcome α (ValueVector α) := do
  let _ ← Word.add span.start 1
  span.foldSplits (transition.addSplit owner chart) (ValueVector.zeros cardinality)

namespace Cell

/-- Add the contribution of one transition, chosen with the given probability. -/
def addTransition (cell : Cell α) (owner : Nat) (span : Span) (terminals : TerminalChart)
    (chart : InsideChart α) (values : ValueVector α) (choice : Transition α × α) :
    Outcome α (ValueVector α) :=
  if Scalar.isZero choice.2 then
    return values
  else do
    let length ← span.length
    match choice.1 with
    | .terminal transition =>
      if length = 1 then
        let symbol ← terminals.symbol span.start
        return values.addScaled choice.2 (transition.emission symbol)
      else
        return values
    | .binary transition =>
      if 1 < length then
        let contribution ← transition.inside owner span chart cell.cardinality
        return values.addScaled choice.2 contribution
      else
        return values

/-- The inside vector of a cell for a span. The number of the cell itself tells what the
transitions without named children refer to. The vector has to fit into memory, also if the cell
has no transitions. -/
def inside (cell : Cell α) (owner : Nat) (span : Span) (terminals : TerminalChart)
    (chart : InsideChart α) : Outcome α (ValueVector α) := do
  let zeros ← ValueVector.allocate cell.cardinality
  (cell.transitions.zip cell.actions).foldlM (cell.addTransition owner span terminals chart) zeros

end Cell

end RecursiveBayes
