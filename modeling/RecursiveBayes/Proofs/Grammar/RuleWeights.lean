/-
This file says what weighted rules mean. A rule that occurs more than once counts with
the sum of its weights. A symbol first decides whether it becomes a word or a pair of
symbols; this choice is the same for all symbols, and as likely as the total weights
of the two kinds of rules. Then the weights of the rules of that kind with the symbol
on the left decide, and a symbol without such rules generates nothing.

The probabilities depend on the rules only through these sums, so neither the order of
the rules nor the division of a weight among several occurrences matters.
-/

import RecursiveBayes.Scalar.Rational
import RecursiveBayes.Grammar.Compile

namespace RecursiveBayes

namespace Production

/-- The production rewrites its left-hand side to a word. -/
def isUnary : Production → Bool
  | unary _ _ => true
  | binary _ _ _ => false

/-- The production rewrites its left-hand side to a pair of symbols. -/
def isBinary : Production → Bool
  | unary _ _ => false
  | binary _ _ _ => true

/-- All symbols of the production are among the declared ones. -/
def Declared (nonTerminals terminals : Finset String) : Production → Prop
  | unary lhs symbol => lhs ∈ nonTerminals ∧ symbol ∈ terminals
  | binary lhs left right => lhs ∈ nonTerminals ∧ left ∈ nonTerminals ∧ right ∈ nonTerminals

theorem Declared.lhs_mem {nonTerminals terminals : Finset String} {production : Production}
    (declared : production.Declared nonTerminals terminals) : production.lhs ∈ nonTerminals := by
  cases production with
  | unary lhs symbol => exact declared.1
  | binary lhs left right => exact declared.1

end Production

namespace Grammar

/-! ### Sums of weights -/

/-- The summed weight of all rules with a selected production. -/
def weightWhere (rules : List (WeightedRule ℚ)) (select : Production → Bool) : ℚ :=
  (rules.map fun rule => if select rule.production then rule.weight else 0).sum

/-- The summed weight of all occurrences of a production. -/
def ruleWeight (rules : List (WeightedRule ℚ)) (production : Production) : ℚ :=
  weightWhere rules fun other => other = production

/-- The summed weight of all rules that rewrite to a word. -/
def unaryWeight (rules : List (WeightedRule ℚ)) : ℚ :=
  weightWhere rules Production.isUnary

/-- The summed weight of all rules that rewrite to a pair of symbols. -/
def binaryWeight (rules : List (WeightedRule ℚ)) : ℚ :=
  weightWhere rules Production.isBinary

variable {rules : List (WeightedRule ℚ)}

theorem weightWhere_cons (rule : WeightedRule ℚ) (rules : List (WeightedRule ℚ))
    (select : Production → Bool) : weightWhere (rule :: rules) select =
      (if select rule.production then rule.weight else 0) + weightWhere rules select := by
  rw [weightWhere, List.map_cons, List.sum_cons]
  rfl

theorem weightWhere_nonneg (nonneg : ∀ rule ∈ rules, 0 ≤ rule.weight)
    (select : Production → Bool) : 0 ≤ weightWhere rules select := by
  refine List.sum_nonneg fun weight member => ?_
  obtain ⟨rule, ruleMember, rfl⟩ := List.mem_map.mp member
  split
  · exact nonneg rule ruleMember
  · exact le_refl 0

/-- There is no weight where no rule is selected. -/
theorem weightWhere_eq_zero {select : Production → Bool}
    (absent : (rules.any fun rule => select rule.production) = false) :
    weightWhere rules select = 0 := by
  refine List.sum_eq_zero fun weight member => ?_
  obtain ⟨rule, ruleMember, rfl⟩ := List.mem_map.mp member
  exact if_neg (List.any_eq_false.mp absent rule ruleMember)

theorem exists_rule_of_ruleWeight_ne_zero {production : Production}
    (nonzero : ruleWeight rules production ≠ 0) : ∃ rule ∈ rules, rule.production = production := by
  by_contra none
  refine nonzero (weightWhere_eq_zero (List.any_eq_false.mpr fun rule member same => ?_))
  exact none ⟨rule, member, of_decide_eq_true same⟩

/-- The weight of the selected rules sums over the productions that are selected. -/
theorem weightWhere_eq_sum {select : Production → Bool} {productions : Finset Production}
    (selected : ∀ rule ∈ rules, select rule.production = true ↔ rule.production ∈ productions) :
    weightWhere rules select = ∑ production ∈ productions, ruleWeight rules production := by
  induction rules with
  | nil => exact (Finset.sum_const_zero).symm
  | cons rule rest inductionHypothesis =>
    simp only [ruleWeight, weightWhere_cons, decide_eq_true_eq, Finset.sum_add_distrib,
      Finset.sum_ite_eq, selected rule List.mem_cons_self]
    rw [inductionHypothesis fun other member => selected other (List.mem_cons_of_mem _ member)]
    rfl

section Declared

variable {nonTerminals terminals : Finset String}

/-- The rules that rewrite to a word have the weight of all such productions together. -/
theorem unaryWeight_eq_sum
    (declared : ∀ rule ∈ rules, rule.production.Declared nonTerminals terminals) :
    unaryWeight rules =
      ∑ lhs ∈ nonTerminals, ∑ symbol ∈ terminals, ruleWeight rules (.unary lhs symbol) := by
  have productions : unaryWeight rules = ∑ production ∈ (nonTerminals ×ˢ terminals).image
      fun both => Production.unary both.1 both.2, ruleWeight rules production := by
    refine weightWhere_eq_sum fun rule member => ?_
    have here := declared rule member
    generalize rule.production = production at here
    cases production with
    | unary lhs symbol => simpa [Production.isUnary, Production.Declared] using here
    | binary lhs left right => simp [Production.isUnary]
  rw [productions, Finset.sum_image, Finset.sum_product]
  rintro ⟨lhs, symbol⟩ _ ⟨otherLhs, otherSymbol⟩ _ same
  cases same
  rfl

/-- The rules that rewrite to a pair have the weight of all such productions together. -/
theorem binaryWeight_eq_sum
    (declared : ∀ rule ∈ rules, rule.production.Declared nonTerminals terminals) :
    binaryWeight rules = ∑ lhs ∈ nonTerminals, ∑ left ∈ nonTerminals, ∑ right ∈ nonTerminals,
      ruleWeight rules (.binary lhs left right) := by
  have productions : binaryWeight rules =
      ∑ production ∈ (nonTerminals ×ˢ (nonTerminals ×ˢ nonTerminals)).image
        fun all => Production.binary all.1 all.2.1 all.2.2, ruleWeight rules production := by
    refine weightWhere_eq_sum fun rule member => ?_
    have here := declared rule member
    generalize rule.production = production at here
    cases production with
    | unary lhs symbol => simp [Production.isBinary]
    | binary lhs left right => simpa [Production.isBinary, Production.Declared] using here
  rw [productions, Finset.sum_image, Finset.sum_product]
  · simp only [Finset.sum_product]
  · rintro ⟨lhs, left, right⟩ _ ⟨otherLhs, otherLeft, otherRight⟩ _ same
    cases same
    rfl

/-! ### Probabilities -/

/-- The probability of rewriting a symbol by a production: the share of the weight of its kind
among all weights, times the share of its own weight among those of its kind with the same
left-hand side. A share of nothing is zero. -/
def probability (nonTerminals terminals : Finset String) (rules : List (WeightedRule ℚ)) :
    Production → ℚ
  | .unary lhs symbol =>
    unaryWeight rules / (unaryWeight rules + binaryWeight rules) *
      (ruleWeight rules (.unary lhs symbol) /
        ∑ other ∈ terminals, ruleWeight rules (.unary lhs other))
  | .binary lhs left right =>
    binaryWeight rules / (unaryWeight rules + binaryWeight rules) *
      (ruleWeight rules (.binary lhs left right) /
        ∑ otherLeft ∈ nonTerminals, ∑ otherRight ∈ nonTerminals,
          ruleWeight rules (.binary lhs otherLeft otherRight))

end Declared

end Grammar

end RecursiveBayes
