/-
This file builds networks from raw numbers. A draft holds numbers of values,
tables of weights and numbers of cells as they are given, whether or not they make
sense. Building goes from the inside out: for each cell its variable, then its
transitions in order, then the cell; after all cells the prior; and last the
network. The first thing that is wrong in this order is reported.
-/

import RecursiveBayes.Network.Basic

namespace RecursiveBayes

variable {α : Type} [Scalar α]

/-- A transition as it is given. -/
inductive TransitionDraft (α : Type) where
  | terminal (weights : Tensor α 1)
  | binary (weights : Tensor α 2) (children : Option (Nat × Nat))

/-- Build a transition. -/
def TransitionDraft.build : TransitionDraft α → Built α (Transition α)
  | terminal weights => do
    let transition ← TerminalTransition.build weights
    return .terminal transition
  | binary weights children => do
    let transition ← BinaryTransition.build weights children
    return .binary transition

/-- A cell as it is given. -/
structure CellDraft (α : Type) where
  cardinality : Nat
  weights : ValueVector α
  transitions : List (TransitionDraft α)

/-- Build a cell. -/
def CellDraft.build (draft : CellDraft α) : Built α (Cell α) := do
  let domain ← Variable.build draft.cardinality
  let transitions ← draft.transitions.mapM TransitionDraft.build
  Cell.build domain draft.weights transitions

/-- A prior as it is given. -/
structure PriorDraft (α : Type) where
  structural : ValueVector α
  values : List (ValueVector α)

/-- Build a prior. -/
def PriorDraft.build (draft : PriorDraft α) : Built α (Prior α) :=
  Prior.build draft.structural draft.values

/-- A network as it is given. -/
structure NetworkDraft (α : Type) where
  cells : List (CellDraft α)
  prior : PriorDraft α
  configuration : Configuration

/-- Build a network. -/
def NetworkDraft.build (draft : NetworkDraft α) : Built α (Network α) := do
  let cells ← draft.cells.mapM CellDraft.build
  let prior ← draft.prior.build
  Network.build cells prior draft.configuration

end RecursiveBayes
