/-
This file assembles networks piece by piece. A builder collects cells in the
order in which they are added, a prior and the settings, each of which may be
replaced until the network is built. A network cannot be built without a prior.
-/

import RecursiveBayes.Network.Basic

namespace RecursiveBayes

/-- The pieces of a network that were given so far. -/
structure NetworkBuilder (α : Type) [Scalar α] where
  cells : List (Cell α) := []
  prior : Option (Prior α) := none
  configuration : Configuration := {}

namespace NetworkBuilder

variable {α : Type} [Scalar α]

/-- Add some cells behind those that are there. -/
def addCells (builder : NetworkBuilder α) (cells : List (Cell α)) : NetworkBuilder α :=
  { builder with cells := builder.cells ++ cells }

/-- Add a cell behind those that are there. -/
def addCell (builder : NetworkBuilder α) (cell : Cell α) : NetworkBuilder α :=
  builder.addCells [cell]

/-- Give or replace the prior. -/
def withPrior (builder : NetworkBuilder α) (prior : Prior α) : NetworkBuilder α :=
  { builder with prior := some prior }

/-- Replace all settings. -/
def withConfiguration (builder : NetworkBuilder α) (configuration : Configuration) :
    NetworkBuilder α :=
  { builder with configuration := configuration }

/-- Replace the length of the longest sequence that is accepted. -/
def withMaximumLength (builder : NetworkBuilder α) (length : Nat) : NetworkBuilder α :=
  builder.withConfiguration { builder.configuration with maximumLength := length }

/-- Replace the least number of spans for which work would be shared out. -/
def withParallelThreshold (builder : NetworkBuilder α) (threshold : Nat) : NetworkBuilder α :=
  builder.withConfiguration { builder.configuration with parallelThreshold := threshold }

/-- The network of the pieces. -/
def build (builder : NetworkBuilder α) : Built α (Network α) :=
  match builder.prior with
  | none => malformed .noPrior
  | some prior => Network.build builder.cells prior builder.configuration

end NetworkBuilder

end RecursiveBayes
