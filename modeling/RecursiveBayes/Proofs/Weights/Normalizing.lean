/-
This file says what normalizing does over the rational numbers. The shares of weights
that are not negative are a distribution: each is the weight divided by the total, and
together they are one. Weights without any total stay zero. Only the proportions of
the weights matter, so shares are their own shares.

A table is normalized slice by slice. The slice of a parent value holds the entries of
all outcomes for it, which stand `parents` places apart, and the slice of the normalized
table is the normalized slice. So everything that holds of vectors holds of each slice,
whatever the other slices are.
-/

import RecursiveBayes.Proofs.Weights.Rational

namespace RecursiveBayes

/-! ### Vectors -/

namespace ValueVector

/-- What the shares of some weights are: a distribution in proportion to the weights if they have
a positive total, and zeros if they have none. -/
structure HasShares (weights shares : ValueVector ℚ) : Prop where
  length_eq : shares.length = weights.length
  total_eq_one : 0 < weights.total → shares.total = 1
  entries : 0 < weights.total → ∀ place, place < weights.length →
    shares.getD place 0 = weights.getD place 0 / weights.total ∧
    0 ≤ shares.getD place 0 ∧ shares.getD place 0 ≤ 1 ∧
    (shares.getD place 0 = 0 ↔ weights.getD place 0 = 0)
  eq_zeros : weights.total = 0 → shares = zeros weights.length

variable (vector : ValueVector ℚ)

theorem total_map_mul (factor : ℚ) :
    total (vector.map fun entry => factor * entry) = factor * vector.total := by
  have scaled := List.sum_map_mul_left vector (fun entry => entry) factor
  rwa [List.map_id'] at scaled

/-- Without a positive total there is nothing to share. -/
theorem normalized_of_not_pos (weightless : ¬ 0 < vector.total) :
    vector.normalized = zeros vector.length := by
  have nothing : share vector.total = fun _ => (0 : ℚ) := by
    funext entry
    rw [share_eq, if_neg weightless]
  rw [normalized, nothing, List.map_const', zeros]

theorem total_normalized_of_pos (positive : 0 < vector.total) : vector.normalized.total = 1 := by
  have shares : vector.normalized = vector.map fun entry => vector.total⁻¹ * entry := by
    refine List.map_congr_left fun entry _ => ?_
    rw [share_eq, if_pos positive, div_eq_inv_mul]
  rw [shares, total_map_mul, inv_mul_cancel₀ positive.ne']

/-- Only the proportions of the weights matter. -/
theorem normalized_map_mul {factor : ℚ} (positive : 0 < factor) :
    normalized (vector.map fun entry => factor * entry) = vector.normalized := by
  rw [normalized, total_map_mul, List.map_map]
  refine List.map_congr_left fun entry _ => ?_
  show share (factor * vector.total) (factor * entry) = share vector.total entry
  rw [share_eq, share_eq]
  simp only [mul_pos_iff_of_pos_left positive, mul_div_mul_left _ _ positive.ne']

/-- Shares are their own shares. -/
theorem normalized_normalized : vector.normalized.normalized = vector.normalized := by
  by_cases positive : 0 < vector.total
  · have whole : share (1 : ℚ) = id := by
      funext entry
      rw [share_eq, if_pos one_pos, div_one, id]
    rw [normalized, total_normalized_of_pos vector positive, whole, List.map_id]
  · have weightless : ¬ 0 < total (zeros vector.length : ValueVector ℚ) := by
      rw [total_eq_sum]
      simp only [getD_zeros, Finset.sum_const_zero, lt_irrefl, not_false_iff]
    rw [normalized_of_not_pos vector positive, normalized_of_not_pos _ weightless, length_zeros]

/-- Normalizing weights that are not negative gives their shares. -/
theorem hasShares_normalized (valid : vector.firstInvalid? = none) :
    HasShares vector vector.normalized where
  length_eq := vector.length_normalized
  total_eq_one := total_normalized_of_pos vector
  entries positive place _ := by
    have share : vector.normalized.getD place 0 = vector.getD place 0 / vector.total := by
      rw [getD_normalized, share_eq, if_pos positive]
    refine ⟨share, getD_normalized_nonneg valid place, ?_, ?_⟩
    · rw [share, div_le_one positive]
      exact getD_le_total valid place
    · rw [share, div_eq_zero_iff]
      exact or_iff_left positive.ne'
  eq_zeros weightless := normalized_of_not_pos vector weightless.not_gt

end ValueVector

/-! ### Slices -/

namespace Tensor

variable {rank : Nat}

/-- The entries of all outcomes for one parent value. -/
def slice {α : Type} [Scalar α] (tensor : Tensor α rank) (parent : Nat) : ValueVector α :=
  (List.range tensor.rows).map fun row => tensor.entry row parent

/-- Tables with the same axes and the same slices are the same. -/
theorem ext_slice {α : Type} [Scalar α] {left right : Tensor α rank}
    (outcomes : left.outcomes = right.outcomes) (parents : left.parents = right.parents)
    (slices : ∀ parent, parent < left.parents → left.slice parent = right.slice parent) :
    left = right := by
  refine ext_entry outcomes parents fun row parent rowLt parentLt => ?_
  have rows : right.rows = left.rows := by rw [rows, rows, outcomes]
  have same := slices parent parentLt
  rw [slice, slice, rows] at same
  exact List.map_inj_left.mp same row (List.mem_range.mpr rowLt)

/-- The slice of the normalized table is the normalized slice, so the total by which an entry is
divided is the one of its own slice. -/
theorem slice_normalized (tensor : Tensor ℚ rank) {parent : Nat}
    (parentLt : parent < tensor.parents) :
    tensor.normalized.slice parent = (tensor.slice parent).normalized := by
  have total : (tensor.slice parent).total = tensor.parentTotal parent :=
    (ValueVector.total_map_range _ _).trans (tensor.parentTotal_eq_sum parentLt).symm
  rw [ValueVector.normalized, total, slice, slice, List.map_map]
  refine List.map_congr_left fun row member => ?_
  exact tensor.entry_normalized (List.mem_range.mp member) parentLt

/-- The table with each slice multiplied by a factor of its own. -/
def rescaled (tensor : Tensor ℚ rank) (factor : Nat → ℚ) : Tensor ℚ rank :=
  generate tensor.outcomes tensor.parents fun row parent => factor parent * tensor.entry row parent

theorem slice_rescaled (tensor : Tensor ℚ rank) (factor : Nat → ℚ) {parent : Nat}
    (parentLt : parent < tensor.parents) :
    (tensor.rescaled factor).slice parent =
      (tensor.slice parent).map fun entry => factor parent * entry := by
  rw [slice, slice, List.map_map]
  refine List.map_congr_left fun row member => ?_
  exact entry_generate _ _ _ (List.mem_range.mp member) parentLt

/-- The entries of a slice are weights if all entries of the table are. -/
theorem firstInvalid?_slice {tensor : Tensor ℚ rank} (nonneg : ∀ entry ∈ tensor.entries, 0 ≤ entry)
    (parent : Nat) : (tensor.slice parent).firstInvalid? = none := by
  have valid : tensor.firstInvalid? = none := by
    rw [firstInvalid?, if_pos]
    exact Array.all_eq_true_iff_forall_mem.mpr fun entry member =>
      decide_eq_true (nonneg entry member)
  refine List.find?_eq_none.mpr fun entry member => ?_
  obtain ⟨row, _, rfl⟩ := List.mem_map.mp member
  simpa [Scalar.isWeight] using entry_nonneg valid row parent

/-- Normalizing a table keeps its shape and gives each slice its own shares: they depend on no
other slice and not on the scale of their own, and normalizing again changes nothing. A
vector is normalized in the same way, as a single slice. -/
theorem normalized_shares_each_slice (tensor : Tensor ℚ rank)
    (nonneg : ∀ entry ∈ tensor.entries, 0 ≤ entry) :
    tensor.normalized.shape = tensor.shape ∧
    (∀ parent, parent < tensor.parents →
      ValueVector.HasShares (tensor.slice parent) (tensor.normalized.slice parent)) ∧
    (∀ (other : Tensor ℚ rank) (parent : Nat), parent < tensor.parents → parent < other.parents →
      other.slice parent = tensor.slice parent →
      other.normalized.slice parent = tensor.normalized.slice parent) ∧
    (∀ factor : Nat → ℚ, (∀ parent, 0 < factor parent) →
      (tensor.rescaled factor).normalized = tensor.normalized) ∧
    tensor.normalized.normalized = tensor.normalized ∧
    ∀ vector : ValueVector ℚ, (∀ entry ∈ vector, 0 ≤ entry) →
      ValueVector.HasShares vector vector.normalized ∧
      (∀ factor : ℚ, 0 < factor →
        ValueVector.normalized (vector.map fun entry => factor * entry) = vector.normalized) ∧
      vector.normalized.normalized = vector.normalized := by
  refine ⟨rfl, fun parent parentLt => ?_, fun other parent parentLt otherLt same => ?_,
    fun factor positive => ?_, ?_, fun vector weights => ⟨?_, fun factor positive => ?_, ?_⟩⟩
  · rw [tensor.slice_normalized parentLt]
    exact ValueVector.hasShares_normalized _ (firstInvalid?_slice nonneg parent)
  · rw [tensor.slice_normalized parentLt, other.slice_normalized otherLt, same]
  · refine ext_slice rfl rfl fun parent parentLt => ?_
    rw [(tensor.rescaled factor).slice_normalized parentLt, slice_rescaled tensor factor parentLt,
      ValueVector.normalized_map_mul _ (positive parent), tensor.slice_normalized parentLt]
  · refine ext_slice rfl rfl fun parent parentLt => ?_
    rw [tensor.normalized.slice_normalized parentLt, tensor.slice_normalized parentLt,
      ValueVector.normalized_normalized]
  · refine vector.hasShares_normalized (List.find?_eq_none.mpr fun entry member => ?_)
    simpa [Scalar.isWeight] using weights entry member
  · exact vector.normalized_map_mul positive
  · exact vector.normalized_normalized

/-- Pairs of one of four values and a single one for three parent values, the second of which
generates nothing. -/
def pairsOfThree : Tensor ℚ 2 :=
  ⟨#v[4, 1], 3, #[1, 0, 2, 3, 0, 0, 0, 0, 2, 4, 0, 1], by decide⟩

/-- The first slice of the table is shared out, the second one stays zero, and multiplying the
third one changes nothing. -/
theorem pairsOfThree_share_each_slice :
    (∀ entry ∈ pairsOfThree.entries, 0 ≤ entry) ∧ 0 < (pairsOfThree.slice 0).total ∧
      (pairsOfThree.normalized.slice 0).total = 1 ∧
      (pairsOfThree.normalized.slice 0).getD 3 0 = 4 / 8 ∧
      pairsOfThree.normalized.slice 1 = [0, 0, 0, 0] ∧
      (pairsOfThree.rescaled fun parent => parent + 1).normalized = pairsOfThree.normalized := by
  have nonneg : ∀ entry ∈ pairsOfThree.entries, 0 ≤ entry := by decide +kernel
  have positive : (pairsOfThree.slice 0).total = 8 := by decide +kernel
  obtain ⟨_, shares, _, scales, _, _⟩ := normalized_shares_each_slice pairsOfThree nonneg
  have first := shares 0 (by decide)
  have positiveFirst : 0 < (pairsOfThree.slice 0).total := positive ▸ by decide
  refine ⟨nonneg, positiveFirst, first.total_eq_one positiveFirst, ?_, ?_, ?_⟩
  · rw [(first.entries positiveFirst 3 (by decide)).1, positive]
    rfl
  · exact (shares 1 (by decide)).eq_zeros (by decide +kernel)
  · exact scales _ fun parent => by positivity

end Tensor

end RecursiveBayes
