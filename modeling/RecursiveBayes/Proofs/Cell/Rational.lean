/-
This file gives the entries of the vectors of cells over the rational numbers. The
vector of a cell is the sum, over the transitions, of the probability that the
transition is chosen times what it contributes. A transition that is never chosen
is passed over, and would contribute nothing.
-/

import RecursiveBayes.Proofs.Cell.Explanation
import RecursiveBayes.Proofs.Transition.Rational

namespace RecursiveBayes

variable {Location : Type}

/-- The sum of the contractions over the parts, place by place. -/
theorem BinaryTransition.getD_explain (transition : BinaryTransition ℚ) (owner : Nat)
    (parts : List (Location × Location)) (vectors : Nat → Location → ValueVector ℚ) (value : Nat) :
    (transition.explain owner transition.parentCardinality parts vectors).getD value 0 =
      ValueVector.total (parts.map fun pair =>
        (transition.contract (vectors (transition.leftIndex owner) pair.1)
          (vectors (transition.rightIndex owner) pair.2)).getD value 0) := by
  refine ValueVector.getD_foldl_zeros fun sum fits pair _ => ?_
  have same : sum.length = (transition.contract (vectors (transition.leftIndex owner) pair.1)
      (vectors (transition.rightIndex owner) pair.2)).length := by
    rw [fits, transition.length_contract]
  exact ⟨transition.length_explainParts owner vectors fits pair, ValueVector.getD_add same value⟩

namespace Cell

variable (cell : Cell ℚ) (owner : Nat) (analysis : Analysis Location)
  (vectors : Nat → Location → ValueVector ℚ)

/-- What a transition contributes to one value of a cell, if it is chosen. -/
def contribution (value : Nat) : Transition ℚ → ℚ
  | .terminal transition =>
    match analysis.observation? with
    | some observation => transition.observed observation value
    | none => 0
  | .binary transition =>
    (transition.explain owner cell.cardinality analysis.parts vectors).getD value 0

theorem getD_explainBy {values : ValueVector ℚ} (fits : values.length = cell.cardinality)
    {choice : Transition ℚ × ℚ} (member : choice ∈ cell.choices) (value : Nat) :
    (cell.explainBy owner analysis vectors values choice).getD value 0 =
      values.getD value 0 +
        choice.2 * cell.contribution owner analysis vectors value choice.1 := by
  obtain ⟨transition, action⟩ := choice
  have parents := parentCardinality_of_mem_choices member
  rw [explainBy]
  split
  · rename_i never
    have zero : action = 0 := by simpa [Scalar.isZero] using never
    rw [zero, zero_mul, add_zero]
  · cases transition with
    | terminal transition =>
      simp only [contribution]
      cases analysis.observation? with
      | none => simp only [mul_zero, add_zero]
      | some observation =>
        have same : values.length = (transition.emission observation).length := by
          rw [fits, transition.length_emission]
          exact parents.symm
        simp only [ValueVector.getD_addScaled same, transition.getD_emission]
    | binary transition =>
      have parentsHere : transition.parentCardinality = cell.cardinality := parents
      simp only [contribution, ← parentsHere]
      split
      · rename_i whole
        rw [transition.getD_explain, whole, List.map_nil, ValueVector.total_nil, mul_zero,
          add_zero]
      · refine ValueVector.getD_addScaled ?_ _ _
        rw [fits, transition.length_explain, parentsHere]

/-- The entry for one value sums over the transitions, each with the probability that it is
chosen. -/
theorem getD_explain (value : Nat) :
    (cell.explain owner analysis vectors).getD value 0 =
      ∑ choice : Fin cell.choices.length, (cell.choices.get choice).2 *
        cell.contribution owner analysis vectors value (cell.choices.get choice).1 := by
  rw [explain, ValueVector.getD_foldl_zeros fun values fits choice member =>
      ⟨length_explainBy owner analysis vectors fits member,
        cell.getD_explainBy owner analysis vectors fits member value⟩,
    ValueVector.total_map]

/-! ### Actions -/

theorem action_nonneg (choice : Fin cell.choices.length) : 0 ≤ (cell.choices.get choice).2 := by
  have member : cell.choices.get choice ∈ cell.choices := List.get_mem _ choice
  obtain ⟨place, found⟩ := List.getElem?_of_mem (List.of_mem_zip member).2
  have nonneg := ValueVector.getD_normalized_nonneg cell.weights_valid place
  rwa [← actions, List.getD_eq_getElem?_getD, found] at nonneg

/-- A choice of a cell is one of its transitions, which is chosen at all exactly if it was given a
positive weight. -/
theorem getElem?_choices_iff {choice : Nat} {transition : Transition ℚ} :
    (∃ action, cell.choices[choice]? = some (transition, action) ∧ action ≠ 0) ↔
      cell.transitions[choice]? = some transition ∧ 0 < cell.weights.getD choice 0 := by
  rw [← ValueVector.getD_normalized_ne_zero_iff cell.weights_valid]
  constructor
  · rintro ⟨action, chosen, different⟩
    obtain ⟨here, weighted⟩ := List.getElem?_zip_eq_some.mp chosen
    rw [← actions, List.getD_eq_getElem?_getD, weighted]
    exact ⟨here, different⟩
  · rintro ⟨here, different⟩
    obtain ⟨inside, _⟩ := List.getElem?_eq_some_iff.mp here
    rw [← cell.length_actions] at inside
    have weighted := List.getElem?_eq_getElem inside
    refine ⟨_, List.getElem?_zip_eq_some.mpr ⟨here, weighted⟩, ?_⟩
    rwa [← actions, List.getD_eq_getElem?_getD, weighted] at different

/-- The transitions are chosen with a total probability of at most one. -/
theorem sum_actions_le_one :
    ∑ choice : Fin cell.choices.length, (cell.choices.get choice).2 ≤ 1 := by
  have actionsAre : cell.choices.map Prod.snd = cell.actions :=
    List.map_snd_zip (Nat.le_of_eq cell.length_actions)
  rw [← ValueVector.total_map cell.choices Prod.snd, actionsAre, ValueVector.total_eq_sum,
    actions, ValueVector.length_normalized]
  exact ValueVector.sum_normalized_le_one cell.weights

/-- What is at most one for every transition is at most one on the average of the choices. -/
theorem sum_choices_le_one (mass : Transition ℚ → ℚ)
    (bounded : ∀ transition, mass transition ≤ 1) :
    ∑ choice : Fin cell.choices.length,
      (cell.choices.get choice).2 * mass (cell.choices.get choice).1 ≤ 1 := by
  refine le_trans (Finset.sum_le_sum fun choice _ => ?_) cell.sum_actions_le_one
  exact mul_le_of_le_one_right (cell.action_nonneg choice) (bounded _)

end Cell

end RecursiveBayes
