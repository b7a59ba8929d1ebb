/-
This file lists the ways in which the text of a rule fails to be a production,
with the wording of each.
-/

namespace RecursiveBayes

/-- Why a text is not a rule. -/
inductive RuleFault where
  | empty
  /-- The word after the left-hand side is not the arrow, or there is none. -/
  | missingArrow (lhs : String)
  /-- The first word is the arrow. -/
  | missingLeft
  /-- Nothing follows the arrow. -/
  | missingRight (lhs : String)
  /-- More than two symbols follow the arrow. -/
  | tooManySymbols (lhs : String) (count : Nat)
  /-- A second arrow follows the first. -/
  | unexpectedArrow (lhs : String)
  deriving DecidableEq

/-- The wording of a fault in the text of a rule. -/
def RuleFault.message : RuleFault → String
  | empty => "empty rule"
  | missingArrow lhs => "expected '-->' after " ++ lhs
  | missingLeft => "rule has no left-hand side"
  | missingRight lhs => "rule for " ++ lhs ++ " has no right-hand side"
  | tooManySymbols lhs count =>
    "rule for " ++ lhs ++ " has " ++ toString count ++ " right-hand symbols, expected 1 or 2"
  | unexpectedArrow lhs => "unexpected '-->' in rule for " ++ lhs

end RecursiveBayes
