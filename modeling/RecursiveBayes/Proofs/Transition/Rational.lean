/-
This file gives the entries of what transitions contribute over the rational
numbers. A terminal transition contributes the probability of the observation. A
binary transition contributes the sum, over left and right values, of the
probability of the pair and the entries of the two vectors; the right values that
are passed over have no weight and would contribute nothing. For a single parent
value the same sum is taken in another order.

The outcomes of one parent value have at most the total probability one, and this
is all that the bounds on sequences need of a transition.
-/

import RecursiveBayes.Proofs.Transition.Contraction
import RecursiveBayes.Proofs.Transition.Tables

namespace RecursiveBayes

/-! ### Observations -/

namespace TerminalTransition

variable (transition : TerminalTransition ℚ)

/-- The probability that a value emits an observation, which is zero if the observation is no
symbol or one that the transition does not know. -/
def observed (observation : Option Nat) (value : Nat) : ℚ :=
  match observation with
  | none => 0
  | some symbol =>
    if symbol < transition.terminalCardinality then transition.probability value symbol else 0

theorem getD_emission (observation : Option Nat) (value : Nat) :
    (transition.emission observation).getD value 0 = transition.observed observation value := by
  cases observation with
  | none => exact ValueVector.getD_zeros _ _
  | some symbol =>
    rw [emission, observed]
    split
    · rw [Tensor.row, List.getD_eq_getElem?_getD, List.getElem?_map]
      by_cases inside : value < transition.table.probabilities.parents
      · rw [List.getElem?_range inside]
        rfl
      · rw [List.getElem?_eq_none (by rw [List.length_range]; exact Nat.le_of_not_lt inside)]
        exact (Tensor.entry_eq_zero _ (Or.inr (Nat.le_of_not_lt inside))).symm
    · exact ValueVector.getD_zeros _ _

theorem observed_nonneg (observation : Option Nat) (value : Nat) :
    0 ≤ transition.observed observation value := by
  cases observation with
  | none => exact le_refl 0
  | some symbol =>
    rw [observed]
    split
    · exact transition.table.entry_nonneg _ _
    · exact le_refl 0

/-- A value can emit exactly the symbols that the transition knows and that were given a positive
weight. -/
theorem observed_ne_zero_iff (observation : Option Nat) (value : Nat) :
    transition.observed observation value ≠ 0 ↔
      ∃ symbol, observation = some symbol ∧ symbol < transition.terminalCardinality ∧
        0 < transition.table.weights.entry symbol value := by
  cases observation with
  | none => simp [observed]
  | some symbol => simp [observed, probability, ← transition.table.entry_ne_zero_iff]

theorem rows_eq : transition.table.weights.rows = transition.terminalCardinality := by
  have coordinates : transition.table.weights.outcomes.toList =
      [transition.terminalCardinality] := by
    refine List.ext_getElem (by simp) fun place inside _ => ?_
    rw [Vector.length_toList] at inside
    interval_cases place
    simp [terminalCardinality, ConditionalTable.outcomes]
  rw [Tensor.rows, coordinates, Sizes.product, Sizes.product, Nat.mul_one]

/-- A value emits any number of observations with a total probability of at most one. -/
theorem sum_observed_le_one (observations : Finset (Option Nat)) (value : Nat) :
    ∑ observation ∈ observations, transition.observed observation value ≤ 1 := by
  let symbols : Finset (Option Nat) :=
    (Finset.range transition.terminalCardinality).map Function.Embedding.some
  have unknown : ∀ observation ∈ observations ∪ symbols, observation ∉ symbols →
      transition.observed observation value = 0 := by
    intro observation _ outside
    cases observation with
    | none => rfl
    | some symbol =>
      refine if_neg fun known => outside ?_
      exact Finset.mem_map.mpr ⟨symbol, Finset.mem_range.mpr known, rfl⟩
  calc ∑ observation ∈ observations, transition.observed observation value
      ≤ ∑ observation ∈ observations ∪ symbols, transition.observed observation value :=
        Finset.sum_le_sum_of_subset_of_nonneg Finset.subset_union_left
          fun observation _ _ => transition.observed_nonneg observation value
    _ = ∑ observation ∈ symbols, transition.observed observation value :=
        (Finset.sum_subset Finset.subset_union_right unknown).symm
    _ = ∑ symbol ∈ Finset.range transition.terminalCardinality,
          transition.probability value symbol := by
        rw [Finset.sum_map]
        exact Finset.sum_congr rfl fun symbol member => if_pos (Finset.mem_range.mp member)
    _ ≤ 1 := by
        have bound := transition.table.sum_entry_le_one value
        rwa [transition.rows_eq] at bound

end TerminalTransition

/-! ### Pairs of values -/

namespace BinaryTransition

variable (transition : BinaryTransition ℚ)

theorem getD_leftTotals {left : ValueVector ℚ} {right value : Nat}
    (valueLt : value < transition.parentCardinality) :
    (transition.leftTotals left right).getD value 0 =
      ∑ other ∈ Finset.range left.length,
        left.getD other 0 * transition.probability other right value := by
  rw [leftTotals, ValueVector.getD_map_range _ valueLt]
  exact ValueVector.weightedTotal_eq_sum _ _ _

/-- A right value without weight contributes nothing, so passing it over changes nothing. -/
theorem getD_contractRight {left right sum : ValueVector ℚ}
    (fits : sum.length = transition.parentCardinality) (value other : Nat) :
    (transition.contractRight left right sum other).getD value 0 =
      sum.getD value 0 + right.getD other 0 * (transition.leftTotals left other).getD value 0 := by
  rw [contractRight]
  split
  · rename_i weightless
    have zero : right.getD other 0 = 0 := by simpa [Scalar.isZero] using weightless
    rw [zero, zero_mul, add_zero]
  · refine ValueVector.getD_addScaled ?_ _ _
    rw [fits, leftTotals, List.length_map, List.length_range]

/-- The contraction sums over all pairs of a left and a right value. -/
theorem getD_contract {left right : ValueVector ℚ}
    (leftFits : left.length = transition.leftCardinality) {value : Nat}
    (valueLt : value < transition.parentCardinality) :
    (transition.contract left right).getD value 0 =
      ∑ leftValue ∈ Finset.range transition.leftCardinality,
        ∑ rightValue ∈ Finset.range transition.rightCardinality,
          transition.probability leftValue rightValue value *
            (left.getD leftValue 0 * right.getD rightValue 0) := by
  rw [contract, ValueVector.getD_foldl_zeros fun sum fits other _ =>
      ⟨transition.length_contractRight left right sum other fits,
        transition.getD_contractRight fits value other⟩,
    ValueVector.total_map_range, Finset.sum_comm]
  refine Finset.sum_congr rfl fun rightValue _ => ?_
  rw [transition.getD_leftTotals valueLt, leftFits, Finset.mul_sum]
  refine Finset.sum_congr rfl fun leftValue _ => ?_
  ring

/-- The sum over all pairs of a left and a right value of the probability of the pair and the
entries of two vectors. -/
def pairTotal (left right : ValueVector ℚ) (value : Nat) : ℚ :=
  ∑ leftValue ∈ Finset.range transition.leftCardinality,
    ∑ rightValue ∈ Finset.range transition.rightCardinality,
      transition.probability leftValue rightValue value *
        (left.getD leftValue 0 * right.getD rightValue 0)

/-- The joint probability of vectors that fit the axes is this sum for the parent value. -/
theorem jointProbability_eq_ok {left right : ValueVector ℚ}
    (leftFits : left.length = transition.leftCardinality)
    (rightFits : right.length = transition.rightCardinality) {value : Nat}
    (valueLt : value < transition.parentCardinality) :
    transition.jointProbability value left right =
      .ok (transition.pairTotal left right value) := by
  have rightTotal (leftValue : Nat) : transition.rightTotal value leftValue right =
      ∑ rightValue ∈ Finset.range transition.rightCardinality,
        transition.probability leftValue rightValue value * right.getD rightValue 0 := by
    rw [BinaryTransition.rightTotal, ValueVector.weightedTotal_eq_sum, rightFits]
    exact Finset.sum_congr rfl fun rightValue _ => mul_comm _ _
  rw [jointProbability, if_neg (Nat.not_le.mpr valueLt),
    if_neg (not_or.mpr ⟨not_not.mpr rightFits, not_not.mpr leftFits⟩), ValueVector.dot_eq_sum,
    leftFits, pairTotal]
  refine congrArg Except.ok (Finset.sum_congr rfl fun leftValue member => ?_)
  rw [ValueVector.getD_map_range _ (Finset.mem_range.mp member), rightTotal, Finset.mul_sum]
  refine Finset.sum_congr rfl fun rightValue _ => ?_
  ring

/-- Both ways to weigh the vectors of two parts give the same sum over all pairs of values, for
every parent value. The order of the sums and the right values that one of them passes over make
no difference. -/
theorem expectation_agrees_with_jointProbability {left right : ValueVector ℚ}
    (leftFits : left.length = transition.leftCardinality)
    (rightFits : right.length = transition.rightCardinality) :
    ∃ vector, transition.expectation left right = .ok vector ∧
      vector.length = transition.parentCardinality ∧
      ∀ value, value < transition.parentCardinality →
        vector[value]? = some (transition.pairTotal left right value) ∧
        transition.jointProbability value left right =
          .ok (transition.pairTotal left right value) := by
  have length := transition.length_contract left right
  refine ⟨_, transition.expectation_eq_ok leftFits rightFits, length, fun value valueLt => ?_⟩
  have inside : value < (transition.contract left right).length := length ▸ valueLt
  refine ⟨?_, transition.jointProbability_eq_ok leftFits rightFits valueLt⟩
  rw [List.getElem?_eq_getElem inside, ← List.getD_eq_getElem _ 0 inside,
    transition.getD_contract leftFits valueLt]
  rfl

/-- Two parent values that split into one of two left and one of three right values. -/
def unevenSplit : BinaryTransition ℚ where
  table :=
    { weights := ⟨#v[2, 3], 2, #[1, 0, 2, 0, 1, 5, 0, 0, 3, 1, 1, 4], by decide⟩
      probabilities := Tensor.normalized ⟨#v[2, 3], 2, #[1, 0, 2, 0, 1, 5, 0, 0, 3, 1, 1, 4],
        by decide⟩
      weights_valid := by decide +kernel
      weights_nonempty := by decide
      probabilities_eq := rfl }
  children := none

/-- Entries of both signs, and a right value that is passed over, for the first parent value. -/
theorem unevenSplit_agrees_with_jointProbability :
    unevenSplit.leftCardinality = 2 ∧ unevenSplit.rightCardinality = 3 ∧
      (∃ vector, unevenSplit.expectation [1 / 2, -2] [0, 3, -1] = .ok vector ∧
        vector[0]? = some (-27 / 16 : ℚ)) ∧
      unevenSplit.jointProbability 0 [1 / 2, -2] [0, 3, -1] = .ok (-27 / 16) := by
  have total : unevenSplit.pairTotal [1 / 2, -2] [0, 3, -1] 0 = -27 / 16 := by decide +kernel
  have leftFits : ([1 / 2, -2] : ValueVector ℚ).length = unevenSplit.leftCardinality := rfl
  have rightFits : ([0, 3, -1] : ValueVector ℚ).length = unevenSplit.rightCardinality := rfl
  obtain ⟨vector, returned, _, entries⟩ :=
    unevenSplit.expectation_agrees_with_jointProbability leftFits rightFits
  obtain ⟨entry, joint⟩ := entries 0 (by decide)
  exact ⟨rfl, rfl, ⟨vector, returned, total ▸ entry⟩, total ▸ joint⟩

theorem probability_nonneg (left right value : Nat) :
    0 ≤ transition.probability left right value :=
  transition.table.entry_nonneg _ _

theorem probability_ne_zero_iff (left right value : Nat) :
    transition.probability left right value ≠ 0 ↔
      0 < transition.table.weights.entry (left * transition.rightCardinality + right) value :=
  transition.table.entry_ne_zero_iff _ _

/-- A value splits into the pairs with a total probability of at most one. -/
theorem sum_probability_le_one (value : Nat) :
    ∑ leftValue ∈ Finset.range transition.leftCardinality,
      ∑ rightValue ∈ Finset.range transition.rightCardinality,
        transition.probability leftValue rightValue value ≤ 1 := by
  have bound := transition.table.sum_entry_le_one value
  rwa [transition.rows_eq, ValueVector.sum_range_mul] at bound

end BinaryTransition

end RecursiveBayes
