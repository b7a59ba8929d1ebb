/-
This file says which tables the transitions accept, and describes the tables of binary
transitions by pairs. A table is sound when all its entries are weights and none of
its axes is empty. The rows of a table over pairs are numbered with the second part
running fastest, so such a table can be read and made by pairs without the row
numbers.
-/

import RecursiveBayes.Proofs.Weights.Rational
import RecursiveBayes.Transition.Binary

namespace RecursiveBayes

variable {α : Type} {rank : Nat}

/-! ### Sound tables -/

theorem Tensor.isEmpty_eq_false_iff {weights : Tensor α rank} :
    weights.isEmpty = false ↔ 0 < weights.rows ∧ 0 < weights.parents := by
  rw [isEmpty, Array.isEmpty_eq_false_iff, ← Array.size_pos_iff, weights.size_entries]
  exact CanonicallyOrderedAdd.mul_pos

section Sound

variable [Scalar α]

theorem ValueVector.firstInvalid?_eq_none_iff {vector : ValueVector α} :
    vector.firstInvalid? = none ↔ ∀ weight ∈ vector, Scalar.isWeight weight = true := by
  simp [firstInvalid?]

/-- All entries are weights and no axis is empty. -/
structure Tensor.Sound (weights : Tensor α rank) : Prop where
  valid : weights.firstInvalid? = none
  nonempty : weights.isEmpty = false

theorem ConditionalTable.sound (table : ConditionalTable α rank) : table.weights.Sound :=
  ⟨table.weights_valid, table.weights_nonempty⟩

/-- A sound table is the table of weights of an accepted one. -/
theorem Tensor.Sound.exists_table {weights : Tensor α rank} (sound : weights.Sound) :
    ∃ table : ConditionalTable α rank, table.weights = weights :=
  ⟨⟨weights, weights.normalized, sound.valid, sound.nonempty, rfl⟩, rfl⟩

end Sound

namespace Tensor

/-- A generated table is sound if it has places and all that is generated are weights. -/
theorem sound_generate [Scalar α] {outcomes : Vector Nat rank} {parents : Nat}
    {weight : Nat → Nat → α} (rowsPos : 0 < Sizes.product outcomes.toList)
    (parentsPos : 0 < parents)
    (valid : ∀ row parent, Scalar.isWeight (weight row parent) = true) :
    (generate outcomes parents weight).Sound where
  valid := by
    rw [firstInvalid?_eq_firstInvalid?_toList, ValueVector.firstInvalid?_eq_none_iff]
    intro entry member
    obtain ⟨place, rfl⟩ := Array.mem_ofFn.mp (Array.mem_toList_iff.mp member)
    exact valid _ _
  nonempty := isEmpty_eq_false_iff.mpr ⟨rowsPos, parentsPos⟩

/-! ### Pairs of outcomes -/

/-- The size of the first axis of a table over pairs. -/
def leftAxis (tensor : Tensor α 2) : Nat :=
  tensor.outcomes.get 0

/-- The size of the second axis of a table over pairs. -/
def rightAxis (tensor : Tensor α 2) : Nat :=
  tensor.outcomes.get 1

theorem rows_pairs (tensor : Tensor α 2) : tensor.rows = tensor.leftAxis * tensor.rightAxis := by
  have coordinates : tensor.outcomes.toList = [tensor.leftAxis, tensor.rightAxis] := by
    refine List.ext_getElem (by simp) fun place inside _ => ?_
    rw [Vector.length_toList] at inside
    interval_cases place <;> simp [leftAxis, rightAxis, Vector.get_eq_getElem]
  rw [rows, coordinates, Sizes.product, Sizes.product, Sizes.product, Nat.mul_one]

/-- A sound table over pairs has left, right and parent values. -/
theorem Sound.axes_pos [Scalar α] {weights : Tensor α 2} (sound : weights.Sound) :
    0 < weights.leftAxis ∧ 0 < weights.rightAxis ∧ 0 < weights.parents := by
  obtain ⟨rowsPos, parentsPos⟩ := isEmpty_eq_false_iff.mp sound.nonempty
  rw [rows_pairs, CanonicallyOrderedAdd.mul_pos] at rowsPos
  exact ⟨rowsPos.1, rowsPos.2, parentsPos⟩

/-- The entry of a pair and a parent value. -/
def pairEntry [Scalar α] (tensor : Tensor α 2) (left right parent : Nat) : α :=
  tensor.entry (left * tensor.rightAxis + right) parent

/-- The table whose entry for each pair and parent value is given by a function. -/
def ofPairs (left right parents : Nat) (weight : Nat → Nat → Nat → α) : Tensor α 2 :=
  generate #v[left, right] parents fun row parent => weight (row / right) (row % right) parent

theorem product_single (size : Nat) : Sizes.product #v[size].toList = size :=
  Nat.mul_one size

theorem product_pairs (left right : Nat) : Sizes.product #v[left, right].toList = left * right :=
  congrArg (left * ·) (Nat.mul_one right)

/-- A table made by pairs is read by pairs. -/
theorem pairEntry_ofPairs [Scalar α] {left right parents : Nat} (weight : Nat → Nat → Nat → α)
    {leftValue rightValue parent : Nat} (leftLt : leftValue < left) (rightLt : rightValue < right)
    (parentLt : parent < parents) :
    (ofPairs left right parents weight).pairEntry leftValue rightValue parent =
      weight leftValue rightValue parent := by
  have rowLt : leftValue * right + rightValue < Sizes.product #v[left, right].toList := by
    rw [product_pairs]
    exact place_lt leftLt rightLt
  have read := entry_generate #v[left, right] parents
    (fun row parent => weight (row / right) (row % right) parent) rowLt parentLt
  rw [row_place leftValue rightLt, parent_place leftValue rightLt] at read
  exact read

/-- A table made by pairs is sound if it has places and is made of weights. -/
theorem sound_ofPairs [Scalar α] {left right parents : Nat} {weight : Nat → Nat → Nat → α}
    (leftPos : 0 < left) (rightPos : 0 < right) (parentsPos : 0 < parents)
    (valid : ∀ leftValue rightValue parent,
      Scalar.isWeight (weight leftValue rightValue parent) = true) :
    (ofPairs left right parents weight).Sound :=
  sound_generate (product_pairs left right ▸ Nat.mul_pos leftPos rightPos) parentsPos
    fun _ _ => valid _ _ _

end Tensor

/-! ### Pairs of values -/

namespace BinaryTransition

variable (transition : BinaryTransition ℚ)

theorem rows_eq : transition.table.weights.rows =
    transition.leftCardinality * transition.rightCardinality :=
  transition.table.weights.rows_pairs

/-- The probability of a pair is the share of its weight in the total of all pairs. -/
theorem probability_eq_share (left right value : Nat) :
    transition.probability left right value =
      ValueVector.share
        (∑ leftValue ∈ Finset.range transition.leftCardinality,
          ∑ rightValue ∈ Finset.range transition.rightCardinality,
            transition.table.weights.pairEntry leftValue rightValue value)
        (transition.table.weights.pairEntry left right value) := by
  rw [probability, transition.table.entry_eq_share, transition.rows_eq, ValueVector.sum_range_mul]
  rfl

end BinaryTransition

end RecursiveBayes
