/-
This file gives the two results of a transition as plain vectors. A terminal
transition gives every observation a vector over its parent values. A binary
transition contracts its table with the vectors of two parts; where these fit the
axes of the table, the contraction is what the checked operation returns, so no
length is ever found wrong.
-/

import RecursiveBayes.Proofs.Protocol.Running
import RecursiveBayes.Transition.Basic

namespace RecursiveBayes

variable {α : Type} [Scalar α]

/-! ### Loops -/

/-- A loop that starts without any weight and keeps the size of a vector. -/
theorem ValueVector.length_foldl_zeros {Item : Type} {step : ValueVector α → Item → ValueVector α}
    {size : Nat} {items : List Item}
    (keeps : ∀ sum : ValueVector α, sum.length = size → ∀ item ∈ items,
      (step sum item).length = size) :
    (items.foldl step (zeros size)).length = size :=
  List.foldlRecOn (motive := fun sum : ValueVector α => sum.length = size) items step
    (length_zeros size) keeps

/-! ### Observations -/

theorem TerminalTransition.length_emission (transition : TerminalTransition α)
    (observation : Option Nat) :
    (transition.emission observation).length = transition.parentCardinality := by
  cases observation with
  | none => exact ValueVector.length_zeros _
  | some symbol =>
    rw [emission]
    split
    · rw [Tensor.row, List.length_map, List.length_range,
        transition.table.parents_probabilities]
      rfl
    · exact ValueVector.length_zeros _

/-! ### Parts -/

namespace BinaryTransition

/-- The contraction increased by the contribution of one right value. -/
def contractRight (transition : BinaryTransition α) (left right sum : ValueVector α)
    (value : Nat) : ValueVector α :=
  if Scalar.isZero (right.getD value 0) then
    sum
  else
    sum.addScaled (right.getD value 0) (transition.leftTotals left value)

/-- The sum over left and right values of the probability of the pair and the entries of the
two vectors, for every parent value. -/
def contract (transition : BinaryTransition α) (left right : ValueVector α) : ValueVector α :=
  (List.range transition.rightCardinality).foldl (transition.contractRight left right)
    (ValueVector.zeros transition.parentCardinality)

/-- Vectors that fit the axes are contracted without any complaint. -/
theorem expectation_eq_ok (transition : BinaryTransition α) {left right : ValueVector α}
    (leftFits : left.length = transition.leftCardinality)
    (rightFits : right.length = transition.rightCardinality) :
    transition.expectation left right = .ok (transition.contract left right) := by
  refine foldlM_eq_ok (fun sum value member => ?_) _
  have valueLt : value < right.length := by
    rw [rightFits]
    exact List.mem_range.mp member
  have read : right[value]? = some (right.getD value 0) := by
    rw [List.getD_eq_getElem?_getD, List.getElem?_eq_getElem valueLt, Option.getD_some]
  rw [addRight, contractRight, read]
  simp only [leftFits, ne_eq, not_true_eq_false, if_false]
  split <;> rfl

theorem length_contractRight (transition : BinaryTransition α) (left right sum : ValueVector α)
    (value : Nat) (fits : sum.length = transition.parentCardinality) :
    (transition.contractRight left right sum value).length = transition.parentCardinality := by
  rw [contractRight]
  split
  · exact fits
  · rw [ValueVector.length_addScaled, fits, leftTotals, List.length_map, List.length_range,
      Nat.min_self]

theorem length_contract (transition : BinaryTransition α) (left right : ValueVector α) :
    (transition.contract left right).length = transition.parentCardinality :=
  ValueVector.length_foldl_zeros fun sum fits value _ =>
    transition.length_contractRight left right sum value fits

end BinaryTransition

end RecursiveBayes
