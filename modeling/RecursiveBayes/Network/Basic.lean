/-
This file holds the networks over sequences. A network is a list of cells and a
prior that fit together: the prior covers exactly the cells and their values, and
every child of a binary transition is an existing cell with as many values as the
axis that stands for it. Children may refer forward, backward or to their own
cell.

A network is only ever built through the check, and carries the proof that the
check found nothing.
-/

import RecursiveBayes.Cell.Basic
import RecursiveBayes.Prior

namespace RecursiveBayes

/-- The settings of the inside pass. -/
structure Configuration where
  /-- The longest sequence that is accepted; zero accepts every sequence. -/
  maximumLength : Nat := 0
  /-- The least number of spans for which the work on one item would be shared out. The pass
  itself does not depend on it. -/
  parallelThreshold : Nat := 64
  deriving DecidableEq

namespace Network

variable {α : Type} [Scalar α]

/-! ### Defects -/

/-- What is wrong with a child of a binary transition, if anything is: the cell is missing, or it
has another number of values than the axis. -/
def childDefect? (cells : List (Cell α)) (cell transition : Nat) (side : Side)
    (child axis : Nat) : Option (ModelDefect α) :=
  match cells[child]? with
  | none => some (.missingChild cell transition side child)
  | some found =>
    if found.cardinality = axis then
      none
    else
      some (.childAxis cell transition side axis child found.cardinality)

/-- What is wrong with the children of a transition. The left child comes first. -/
def transitionDefect? (cells : List (Cell α)) (cell : Nat) (entry : Transition α × Nat) :
    Option (ModelDefect α) :=
  match entry.1 with
  | .terminal _ => none
  | .binary transition =>
    (childDefect? cells cell entry.2 .left (transition.leftIndex cell)
        transition.leftCardinality).or
      (childDefect? cells cell entry.2 .right (transition.rightIndex cell)
        transition.rightCardinality)

/-- What is wrong with a cell and the prior over its values. The prior comes first, then the
transitions in order. -/
def cellDefect? (cells : List (Cell α)) (entry : (Cell α × ValueVector α) × Nat) :
    Option (ModelDefect α) :=
  if entry.1.2.length = entry.1.1.cardinality then
    entry.1.1.transitions.zipIdx.findSome? (transitionDefect? cells entry.2)
  else
    some (.priorValues entry.2 entry.1.2.length entry.1.1.cardinality)

/-- The first thing that is wrong with a list of cells and a prior: their numbers, and then the
cells in order. -/
def firstDefect? (cells : List (Cell α)) (prior : Prior α) : Option (ModelDefect α) :=
  if prior.cellCount = cells.length then
    (cells.zip prior.valueWeights).zipIdx.findSome? (cellDefect? cells)
  else
    some (.priorCells prior.cellCount cells.length)

end Network

/-! ### Networks -/

/-- Cells and a prior that fit together, and the settings of the inside pass. -/
structure Network (α : Type) [Scalar α] where
  cells : List (Cell α)
  prior : Prior α
  configuration : Configuration
  /-- The cells and the prior fit together. -/
  sound : Network.firstDefect? cells prior = none

namespace Network

variable {α : Type} [Scalar α]

/-- The network of some cells and a prior, if they fit together. -/
def build (cells : List (Cell α)) (prior : Prior α) (configuration : Configuration) :
    Built α (Network α) :=
  match sound : firstDefect? cells prior with
  | some defect => malformed defect
  | none => .ok ⟨cells, prior, configuration, sound⟩

/-- The number of cells. -/
def cellCount (network : Network α) : Nat :=
  network.cells.length

/-- The number of values of each cell. -/
def cardinalities (network : Network α) : List Nat :=
  network.cells.map Cell.cardinality

end Network

end RecursiveBayes
