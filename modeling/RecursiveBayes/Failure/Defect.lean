/-
This file lists the defects of a model: shapes, weights, indices and symbols
that do not fit together, each with the values that show it and its wording.
-/

import RecursiveBayes.Rule.Production
import RecursiveBayes.Scalar.Basic

namespace RecursiveBayes

/-- A child of a binary transition. -/
inductive Side where
  | left
  | right
  deriving DecidableEq

/-- The word for a side. -/
def Side.name : Side → String
  | left => "left"
  | right => "right"

/-- Something in a model, or in a request to it, that does not fit. -/
inductive ModelDefect (α : Type) where
  /-- A variable has no values. -/
  | noValues
  /-- A weight is negative, infinite or not a number. -/
  | invalidWeight (holder : String) (weight : α)
  /-- A transition has an axis of size zero. -/
  | emptyAxis (holder : String)
  /-- A cell has more or fewer action weights than transitions. -/
  | actionCount (weights transitions : Nat)
  /-- The parent axis of a transition is not the axis of its cell's variable. -/
  | parentAxis (transition axis cardinality : Nat)
  /-- A prior has more or fewer structural weights than value distributions. -/
  | structuralCount (weights distributions : Nat)
  /-- A prior over values covers no value. -/
  | noPriorValues
  /-- A prior is combined with the wrong number of root vectors. -/
  | rootCount (cells vectors : Nat)
  /-- A root vector has more or fewer entries than the prior over its values. -/
  | rootLength (values entries : Nat)
  /-- A root vector that the prior needs is not in the chart. -/
  | rootNotComputed (variableIndex : Nat) (location : String)
  /-- A chart entry is written with a vector of the wrong length. -/
  | vectorLength (entries cardinality : Nat)
  /-- A chart entry is written for a variable that the chart does not have. -/
  | noSuchVariable (variableIndex count : Nat)
  /-- Inside vectors are requested of a cell that the network does not have. -/
  | noSuchCell (variableIndex cells : Nat)
  /-- More or fewer vectors than locations are written. -/
  | valueCount (values locations : Nat)
  /-- The prior covers more or fewer cells than the network has. -/
  | priorCells (prior cells : Nat)
  /-- The prior over a cell's values does not fit the cell's variable. -/
  | priorValues (cell values cardinality : Nat)
  /-- A binary transition refers to a cell that the network does not have. -/
  | missingChild (cell transition : Nat) (side : Side) (child : Nat)
  /-- An axis of a binary transition does not fit the variable of the child's cell. -/
  | childAxis (cell transition : Nat) (side : Side) (axis child cardinality : Nat)
  /-- A network is built before a prior was given. -/
  | noPrior
  /-- A name is declared twice. -/
  | duplicateSymbol (kind name : String)
  /-- A grammar declares no non-terminal. -/
  | noNonTerminals
  /-- The weight of a rule is negative, infinite or not a number. -/
  | ruleWeight (production : Production) (weight : α)
  /-- A grammar has no rule. -/
  | noRules
  deriving DecidableEq

/-- The wording of a defect. -/
def ModelDefect.message {α : Type} [ScalarText α] : ModelDefect α → String
  | noValues => "variable cardinality must be positive"
  | invalidWeight holder weight =>
    holder ++ " contains invalid weight " ++ ScalarText.positional weight
  | emptyAxis holder => holder ++ " has an empty axis"
  | actionCount weights transitions =>
    s!"{weights} action weights for {transitions} transitions"
  | parentAxis transition axis cardinality =>
    s!"transition {transition} has parent axis of size {axis}, " ++
      s!"variable has cardinality {cardinality}"
  | structuralCount weights distributions =>
    s!"{weights} structural weights for {distributions} value distributions"
  | noPriorValues => "prior value weights are empty"
  | rootCount cells vectors => s!"prior covers {cells} cells, got {vectors} root vectors"
  | rootLength values entries => s!"prior over {values} values, root vector has {entries}"
  | rootNotComputed variableIndex location =>
    s!"root vector of variable {variableIndex} at " ++ location ++ " was never computed"
  | vectorLength entries cardinality =>
    s!"vector of length {entries} for a variable of cardinality {cardinality}"
  | noSuchVariable variableIndex count =>
    s!"variable index {variableIndex} out of range ({count} variables)"
  | noSuchCell variableIndex cells =>
    s!"variable index {variableIndex} out of range ({cells} cells)"
  | valueCount values locations => s!"{values} values for {locations} locations"
  | priorCells prior cells => s!"prior covers {prior} cells, network has {cells}"
  | priorValues cell values cardinality =>
    s!"prior for cell {cell} has {values} values, cardinality is {cardinality}"
  | missingChild cell transition side child =>
    s!"cell {cell} transition {transition}: " ++ side.name ++
      s!" child refers to missing cell {child}"
  | childAxis cell transition side axis child cardinality =>
    s!"cell {cell} transition {transition}: " ++ side.name ++
      s!" axis has size {axis}, cell {child} has cardinality {cardinality}"
  | noPrior => "network has no prior"
  | duplicateSymbol kind name => "duplicate " ++ kind ++ " symbol: " ++ name
  | noNonTerminals => "grammar has no non-terminals"
  | ruleWeight production weight =>
    "rule '" ++ production.render ++ "' has invalid weight " ++ ScalarText.positional weight
  | noRules => "grammar has no rules"

end RecursiveBayes
