/-
This file says what the tally of some rules holds over the rational numbers: at the
place of a production, the summed weight of all its occurrences, and whether there was
a rule of each kind at all. The order in which the weights were added does not show.
-/

import RecursiveBayes.Proofs.Grammar.Accumulated

namespace RecursiveBayes

namespace Grammar

variable {nonTerminals terminals : Vocabulary}

/-- The total of the weights of a production is their sum. -/
theorem occurrenceTotal_eq_ruleWeight (rules : List (WeightedRule ℚ)) (production : Production) :
    occurrenceTotal rules production = ruleWeight rules production := by
  induction rules with
  | nil => rfl
  | cons rule rest inductionHypothesis =>
    rw [ruleWeight, weightWhere_cons, ← ruleWeight, ← inductionHypothesis, occurrenceTotal,
      occurrenceTotal, ValueVector.runningTotal_eq_total, ValueVector.runningTotal_eq_total,
      List.filter_cons]
    split
    · rw [List.map_cons, ValueVector.total_cons]
    · rw [zero_add]

/-- A tally that holds the sums of the weights of some valid rules. -/
structure Tallies (nonTerminals terminals : Vocabulary) (rules : List (WeightedRule ℚ))
    (tally : Tally ℚ) : Prop where
  unaryOutcomes : tally.unary.outcomes = #v[terminals.size]
  unaryParents : tally.unary.parents = nonTerminals.size
  unaryEntry : ∀ lhs symbol parent row, nonTerminals.get? lhs = some parent →
    terminals.get? symbol = some row →
      tally.unary.entry row parent = ruleWeight rules (.unary lhs symbol)
  hasUnary : tally.hasUnary = rules.any fun rule => rule.production.isUnary
  binaryOutcomes : tally.binary.outcomes = #v[nonTerminals.size, nonTerminals.size]
  binaryParents : tally.binary.parents = nonTerminals.size
  binaryEntry : ∀ lhs left right parent leftChild rightChild,
    nonTerminals.get? lhs = some parent → nonTerminals.get? left = some leftChild →
      nonTerminals.get? right = some rightChild →
        tally.binary.entry (leftChild * nonTerminals.size + rightChild) parent =
          ruleWeight rules (.binary lhs left right)
  hasBinary : tally.hasBinary = rules.any fun rule => rule.production.isBinary
  nonneg : ∀ rule ∈ rules, 0 ≤ rule.weight
  declared : ∀ rule ∈ rules,
    rule.production.Declared nonTerminals.names.toFinset terminals.names.toFinset

namespace Tallies

variable {rules : List (WeightedRule ℚ)} {tally : Tally ℚ}

theorem rows_unary (tallies : Tallies nonTerminals terminals rules tally) :
    tally.unary.rows = terminals.size := by
  rw [Tensor.rows, tallies.unaryOutcomes, Tensor.product_single]

theorem rows_binary (tallies : Tallies nonTerminals terminals rules tally) :
    tally.binary.rows = nonTerminals.size * nonTerminals.size := by
  rw [Tensor.rows, tallies.binaryOutcomes, Tensor.product_pairs]

end Tallies

end Grammar

end RecursiveBayes
