/-
This file reads the arithmetic of weights over the rational numbers. There a vector
is a function of the place, which is zero behind the end, and the loops of the
library are finite sums over places.

The shares of weights in their total are not negative and sum up to at most one:
to one if there is any weight at all, and to zero otherwise. The same holds for
each parent value of a table.
-/

import RecursiveBayes.Scalar.Rational
import RecursiveBayes.Weights.Conditional

namespace RecursiveBayes

/-! ### Vectors as functions of the place -/

namespace ValueVector

theorem total_nil : (total [] : ℚ) = 0 := rfl

theorem total_cons (entry : ℚ) (rest : ValueVector ℚ) :
    total (entry :: rest) = entry + rest.total := by
  exact List.sum_cons

theorem total_append (left right : ValueVector ℚ) :
    total (left ++ right) = left.total + right.total := by
  exact List.sum_append

theorem total_eq_sum (vector : ValueVector ℚ) :
    vector.total = ∑ place ∈ Finset.range vector.length, vector.getD place 0 := by
  induction vector with
  | nil => rfl
  | cons entry rest inductionHypothesis =>
    rw [total_cons, inductionHypothesis, List.length_cons, Finset.sum_range_succ', add_comm]
    simp only [List.getD_cons_succ, List.getD_cons_zero]

/-- Adding the entries one after the other gives their total. -/
theorem runningTotal_eq_total (vector : ValueVector ℚ) : vector.runningTotal = vector.total :=
  List.sum_eq_foldl.symm

/-- The total of a list of numbers, one for each item of a list. -/
theorem total_map {Item : Type} (items : List Item) (entry : Item → ℚ) :
    total (items.map entry) = ∑ place : Fin items.length, entry (items.get place) :=
  (Fin.sum_univ_fun_getElem items entry).symm

/-- The total of the values of a function at the first places. -/
theorem total_map_range (entry : Nat → ℚ) (count : Nat) :
    total ((List.range count).map entry) = ∑ place ∈ Finset.range count, entry place :=
  rfl

/-- The total of the values of a function at consecutive places. -/
theorem total_map_range' (entry : Nat → ℚ) (start stop : Nat) :
    total ((List.range' start (stop - start)).map entry) =
      ∑ place ∈ Finset.Ico start stop, entry place :=
  rfl

theorem dot_eq_sum (left right : ValueVector ℚ) :
    ValueVector.dot left right =
      ∑ place ∈ Finset.range left.length, left.getD place 0 * right.getD place 0 := by
  rw [dot]
  induction left generalizing right with
  | nil => rfl
  | cons entry rest inductionHypothesis =>
    rw [List.length_cons, Finset.sum_range_succ', add_comm]
    cases right with
    | nil => simp [total_nil]
    | cons other others =>
      rw [List.zipWith_cons_cons, total_cons, inductionHypothesis]
      simp only [List.getD_cons_succ, List.getD_cons_zero]

theorem addWeighted_eq_sum (weight : Nat → ℚ) (vector : ValueVector ℚ) (place : Nat) (sum : ℚ) :
    addWeighted weight vector place sum =
      sum + ∑ offset ∈ Finset.range vector.length,
        vector.getD offset 0 * weight (place + offset) := by
  induction vector generalizing place sum with
  | nil => exact (add_zero sum).symm
  | cons entry rest inductionHypothesis =>
    rw [addWeighted, inductionHypothesis, List.length_cons, Finset.sum_range_succ']
    simp only [List.getD_cons_succ, List.getD_cons_zero, Nat.add_zero, Nat.add_assoc,
      Nat.add_comm 1]
    ring

theorem totalBelow_eq_sum (count : Nat) (entry : Nat → ℚ) :
    totalBelow count entry = ∑ place ∈ Finset.range count, entry place := by
  induction count with
  | zero => rfl
  | succ count inductionHypothesis =>
    rw [totalBelow_succ, inductionHypothesis, Finset.sum_range_succ]

/-- A sum over the numbers of pairs is a sum over the pairs, the second part running fastest. -/
theorem sum_range_mul {Number : Type} [AddCommMonoid Number] (outer inner : Nat)
    (entry : Nat → Number) :
    ∑ place ∈ Finset.range (outer * inner), entry place =
      ∑ first ∈ Finset.range outer, ∑ second ∈ Finset.range inner,
        entry (first * inner + second) := by
  induction outer with
  | zero => rw [Nat.zero_mul, Finset.sum_range_zero, Finset.sum_range_zero]
  | succ outer inductionHypothesis =>
    rw [Nat.succ_mul, Finset.sum_range_add, inductionHypothesis, Finset.sum_range_succ]

theorem getD_map_range (entry : Nat → ℚ) {size place : Nat} (inside : place < size) :
    ((List.range size).map entry).getD place 0 = entry place := by
  rw [List.getD_eq_getElem?_getD, List.getElem?_map, List.getElem?_range inside]
  rfl

/-- A vector of a known length is the list of its entries. -/
theorem eq_map_range {vector : ValueVector ℚ} {size : Nat} {entry : Nat → ℚ}
    (fits : vector.length = size)
    (entries : ∀ place, place < size → vector.getD place 0 = entry place) :
    vector = (List.range size).map entry := by
  refine List.ext_getElem (by rw [fits, List.length_map, List.length_range])
    fun place inside _ => ?_
  rw [List.getElem_map, List.getElem_range, ← entries place (fits ▸ inside),
    List.getD_eq_getElem?_getD, List.getElem?_eq_getElem inside, Option.getD_some]

/-- A weighted total is the same whether the weights lie side by side or apart. -/
theorem weightedTotal_eq_sum (vector : ValueVector ℚ) (distance : Nat) (weight : Nat → ℚ) :
    vector.weightedTotal distance weight =
      ∑ place ∈ Finset.range vector.length, vector.getD place 0 * weight place := by
  rw [weightedTotal]
  split
  · rw [dot_eq_sum]
    refine Finset.sum_congr rfl fun place inside => ?_
    rw [getD_map_range weight (Finset.mem_range.mp inside)]
  · rw [addWeighted_eq_sum, zero_add]
    simp only [Nat.zero_add]

theorem getD_zeros (size place : Nat) : (zeros size : ValueVector ℚ).getD place 0 = 0 := by
  rw [zeros, List.getD_eq_getElem?_getD, List.getElem?_replicate]
  split <;> rfl

/-- An operation on the entries of two vectors, that gives zero where both are zero, is done place
by place also behind the end. -/
theorem getD_zipWith (operation : ℚ → ℚ → ℚ) (zero : operation 0 0 = 0)
    {left right : ValueVector ℚ} (same : left.length = right.length) (place : Nat) :
    (List.zipWith operation left right).getD place 0 =
      operation (left.getD place 0) (right.getD place 0) := by
  simp only [List.getD_eq_getElem?_getD, List.getElem?_zipWith]
  by_cases inside : place < left.length
  · rw [List.getElem?_eq_getElem inside, List.getElem?_eq_getElem (same ▸ inside)]
    rfl
  · rw [List.getElem?_eq_none (Nat.le_of_not_lt inside),
      List.getElem?_eq_none (same ▸ Nat.le_of_not_lt inside)]
    exact zero.symm

theorem getD_add {left right : ValueVector ℚ} (same : left.length = right.length) (place : Nat) :
    (left.add right).getD place 0 = left.getD place 0 + right.getD place 0 :=
  getD_zipWith (fun entry other => entry + other) (add_zero 0) same place

theorem getD_addScaled {vector other : ValueVector ℚ} (same : vector.length = other.length)
    (scale : ℚ) (place : Nat) :
    (vector.addScaled scale other).getD place 0 =
      vector.getD place 0 + scale * other.getD place 0 :=
  getD_zipWith (fun entry addend => entry + scale * addend) (by rw [mul_zero, add_zero]) same
    place

/-- A loop over vectors of one size that increases an entry at each step by a number adds the
numbers to the entry. -/
theorem getD_foldl {Item : Type} {step : ValueVector ℚ → Item → ValueVector ℚ} {size place : Nat}
    {addend : Item → ℚ} {items : List Item}
    (steps : ∀ sum : ValueVector ℚ, sum.length = size → ∀ item ∈ items,
      (step sum item).length = size ∧
        (step sum item).getD place 0 = sum.getD place 0 + addend item)
    {start : ValueVector ℚ} (fits : start.length = size) :
    (items.foldl step start).getD place 0 = start.getD place 0 + total (items.map addend) := by
  induction items generalizing start with
  | nil => exact (add_zero _).symm
  | cons item rest inductionHypothesis =>
    obtain ⟨nextFits, increased⟩ := steps start fits item List.mem_cons_self
    have others := inductionHypothesis (fun sum sumFits other member =>
      steps sum sumFits other (List.mem_cons_of_mem _ member)) nextFits
    rw [List.foldl_cons, others, increased, List.map_cons, total_cons, add_assoc]

/-- The same, for a loop that starts without any weight. -/
theorem getD_foldl_zeros {Item : Type} {step : ValueVector ℚ → Item → ValueVector ℚ}
    {size place : Nat} {addend : Item → ℚ} {items : List Item}
    (steps : ∀ sum : ValueVector ℚ, sum.length = size → ∀ item ∈ items,
      (step sum item).length = size ∧
        (step sum item).getD place 0 = sum.getD place 0 + addend item) :
    (items.foldl step (zeros size)).getD place 0 = total (items.map addend) := by
  rw [getD_foldl steps (length_zeros size), getD_zeros, zero_add]

/-! ### Shares -/

theorem nonneg_of_firstInvalid? {vector : ValueVector ℚ} (valid : vector.firstInvalid? = none) :
    ∀ entry ∈ vector, 0 ≤ entry := by
  intro entry member
  have weight := List.find?_eq_none.mp valid entry member
  simpa [Scalar.isWeight] using weight

theorem share_eq (total entry : ℚ) :
    share total entry = if 0 < total then entry / total else 0 := by
  by_cases positive : 0 < total <;> simp [share, Scalar.isPositive, positive]

/-- The share in a total that is not negative is a quotient, where division by zero gives zero. -/
theorem share_eq_div {total : ℚ} (nonneg : 0 ≤ total) (entry : ℚ) :
    share total entry = entry / total := by
  rw [share_eq]
  split
  · rfl
  · rename_i notPositive
    rw [le_antisymm (le_of_not_gt notPositive) nonneg, div_zero]

theorem share_zero (total : ℚ) : share total 0 = 0 := by
  rw [share_eq, zero_div, ite_self]

theorem share_nonneg {total entry : ℚ} (nonneg : 0 ≤ entry) : 0 ≤ share total entry := by
  rw [share_eq]
  split
  · rename_i positive
    exact div_nonneg nonneg positive.le
  · exact le_refl 0

/-- Nothing of a total is lost by taking shares: what has a share is what is positive. -/
theorem share_ne_zero_iff {total entry : ℚ} (nonneg : 0 ≤ entry) (bound : entry ≤ total) :
    share total entry ≠ 0 ↔ 0 < entry := by
  rw [share_eq_div (nonneg.trans bound), div_ne_zero_iff]
  constructor
  · rintro ⟨entryNonzero, _⟩
    exact lt_of_le_of_ne nonneg entryNonzero.symm
  · intro positive
    exact ⟨positive.ne', (lt_of_lt_of_le positive bound).ne'⟩

/-- The shares in a total sum up to one, or to zero if the total is not positive. -/
theorem sum_share_le_one (count : Nat) (entry : Nat → ℚ) :
    ∑ place ∈ Finset.range count,
      share (∑ other ∈ Finset.range count, entry other) (entry place) ≤ 1 := by
  simp only [share_eq]
  by_cases positive : 0 < ∑ other ∈ Finset.range count, entry other
  · simp only [if_pos positive]
    rw [← Finset.sum_div, div_self positive.ne']
  · simp only [if_neg positive, Finset.sum_const_zero]
    exact zero_le_one

theorem getD_normalized (vector : ValueVector ℚ) (place : Nat) :
    vector.normalized.getD place 0 = share vector.total (vector.getD place 0) := by
  rw [normalized, List.getD_eq_getElem?_getD, List.getElem?_map, List.getD_eq_getElem?_getD]
  cases vector[place]? with
  | none => exact (share_zero _).symm
  | some entry => rfl

theorem getD_nonneg {vector : ValueVector ℚ} (valid : vector.firstInvalid? = none)
    (place : Nat) : 0 ≤ vector.getD place 0 := by
  rw [List.getD_eq_getElem?_getD]
  cases found : vector[place]? with
  | none => exact le_refl 0
  | some entry => exact nonneg_of_firstInvalid? valid entry (List.mem_of_getElem? found)

/-- A weight is at most the sum of all weights before a place behind which there are none. -/
theorem le_sum_range {entry : Nat → ℚ} (nonneg : ∀ place, 0 ≤ entry place) {count place : Nat}
    (behind : count ≤ place → entry place = 0) :
    entry place ≤ ∑ other ∈ Finset.range count, entry other := by
  by_cases inside : place < count
  · exact Finset.single_le_sum (fun other _ => nonneg other) (Finset.mem_range.mpr inside)
  · rw [behind (Nat.le_of_not_lt inside)]
    exact Finset.sum_nonneg fun other _ => nonneg other

/-- Entries that are not negative have a sum that is not. -/
theorem total_nonneg {vector : ValueVector ℚ} (nonneg : ∀ entry ∈ vector, 0 ≤ entry) :
    0 ≤ vector.total := by
  rw [total_eq_sum]
  refine Finset.sum_nonneg fun place inside => ?_
  rw [List.getD_eq_getElem _ _ (Finset.mem_range.mp inside)]
  exact nonneg _ (List.getElem_mem _)

theorem getD_le_total {vector : ValueVector ℚ} (valid : vector.firstInvalid? = none)
    (place : Nat) : vector.getD place 0 ≤ vector.total := by
  rw [total_eq_sum]
  exact le_sum_range (getD_nonneg valid) (List.getD_eq_default _ _)

theorem getD_normalized_nonneg {vector : ValueVector ℚ} (valid : vector.firstInvalid? = none)
    (place : Nat) : 0 ≤ vector.normalized.getD place 0 := by
  rw [getD_normalized]
  exact share_nonneg (getD_nonneg valid place)

theorem getD_normalized_ne_zero_iff {vector : ValueVector ℚ}
    (valid : vector.firstInvalid? = none) (place : Nat) :
    vector.normalized.getD place 0 ≠ 0 ↔ 0 < vector.getD place 0 := by
  rw [getD_normalized]
  exact share_ne_zero_iff (getD_nonneg valid place) (getD_le_total valid place)

theorem sum_normalized_le_one (vector : ValueVector ℚ) :
    ∑ place ∈ Finset.range vector.length, vector.normalized.getD place 0 ≤ 1 := by
  simp only [getD_normalized, total_eq_sum]
  exact sum_share_le_one vector.length fun place => vector.getD place 0

end ValueVector

/-! ### Tables -/

namespace Tensor

variable {rank : Nat}

/-- A table is determined by its axes and its entries. -/
theorem ext_entry {α : Type} [Scalar α] {left right : Tensor α rank}
    (outcomes : left.outcomes = right.outcomes) (parents : left.parents = right.parents)
    (entries : ∀ row parent, row < left.rows → parent < left.parents →
      left.entry row parent = right.entry row parent) : left = right := by
  obtain ⟨leftOutcomes, leftParents, leftEntries, leftSize⟩ := left
  obtain ⟨rightOutcomes, rightParents, rightEntries, rightSize⟩ := right
  cases outcomes
  cases parents
  rw [Tensor.mk.injEq]
  refine ⟨rfl, rfl, Array.ext (leftSize.trans rightSize.symm) fun place inLeft inRight => ?_⟩
  have inside : place < Sizes.product leftOutcomes.toList * leftParents := leftSize ▸ inLeft
  have parentsPos : 0 < leftParents := Nat.pos_of_mul_pos_left (Nat.zero_lt_of_lt inside)
  have same := entries (place / leftParents) (place % leftParents)
    (Nat.div_lt_of_lt_mul (Nat.mul_comm _ leftParents ▸ inside)) (Nat.mod_lt _ parentsPos)
  simp only [entry, if_pos (Nat.mod_lt place parentsPos), Nat.div_add_mod',
    Array.getD_eq_getD_getElem?, Array.getElem?_eq_getElem inLeft,
    Array.getElem?_eq_getElem inRight, Option.getD_some] at same
  exact same

theorem entry_nonneg {tensor : Tensor ℚ rank} (valid : tensor.firstInvalid? = none)
    (row parent : Nat) : 0 ≤ tensor.entry row parent := by
  rw [firstInvalid?_eq_firstInvalid?_toList] at valid
  rw [entry]
  split
  · rw [Array.getD_eq_getD_getElem?]
    cases found : tensor.entries[row * tensor.parents + parent]? with
    | none => exact le_refl 0
    | some entry =>
      exact ValueVector.nonneg_of_firstInvalid? valid entry
        (Array.mem_toList_iff.mpr (Array.mem_of_getElem? found))
  · exact le_refl 0

/-- The total of a table sums over all outcomes and parent values. -/
theorem total_eq_sum (tensor : Tensor ℚ rank) :
    tensor.total = ∑ row ∈ Finset.range tensor.rows, ∑ parent ∈ Finset.range tensor.parents,
      tensor.entry row parent := by
  have size : tensor.entries.toList.length = tensor.rows * tensor.parents := tensor.size_entries
  rw [total, ValueVector.total_eq_sum, size, ValueVector.sum_range_mul]
  refine Finset.sum_congr rfl fun row _ => Finset.sum_congr rfl fun parent member => ?_
  rw [entry, if_pos (Finset.mem_range.mp member), Array.getD_eq_getD_getElem?,
    List.getD_eq_getElem?_getD, Array.getElem?_toList]

/-- The total of a parent value sums over all outcomes, in whichever order they are added. -/
theorem parentTotal_eq_sum (tensor : Tensor ℚ rank) {parent : Nat}
    (parentLt : parent < tensor.parents) :
    tensor.parentTotal parent = ∑ row ∈ Finset.range tensor.rows, tensor.entry row parent := by
  rw [parentTotal]
  split
  · rename_i only
    rw [only, Nat.lt_one_iff] at parentLt
    simp only [total_eq_sum, only, Finset.sum_range_one, parentLt]
  · simp only [ValueVector.totalBelow_eq_sum]
    rw [← ValueVector.sum_range_mul (tensor.rows / tensor.lineLength) tensor.lineLength
      fun row => tensor.entry row parent, Nat.div_mul_cancel tensor.lineLength_dvd_rows]

end Tensor

namespace ConditionalTable

variable {rank : Nat}

/-- A probability is the share of the weight in the total of its parent value, also outside the
table, where there is neither a weight nor a probability. -/
theorem entry_eq_share (table : ConditionalTable ℚ rank) (row parent : Nat) :
    table.probabilities.entry row parent =
      ValueVector.share
        (∑ other ∈ Finset.range table.weights.rows, table.weights.entry other parent)
        (table.weights.entry row parent) := by
  rw [table.probabilities_eq]
  by_cases inside : row < table.weights.rows ∧ parent < table.parents
  · rw [table.weights.entry_normalized inside.1 inside.2,
      Tensor.parentTotal_eq_sum _ inside.2]
  · have outside := (not_and_or.mp inside).imp Nat.le_of_not_lt Nat.le_of_not_lt
    rw [Tensor.entry_eq_zero table.weights outside, ValueVector.share_zero]
    exact Tensor.entry_eq_zero _ outside

/-- A probability is a quotient of weights, where division by zero gives zero. -/
theorem entry_eq_div (table : ConditionalTable ℚ rank) (row parent : Nat) :
    table.probabilities.entry row parent = table.weights.entry row parent /
      ∑ other ∈ Finset.range table.weights.rows, table.weights.entry other parent := by
  rw [table.entry_eq_share]
  exact ValueVector.share_eq_div
    (Finset.sum_nonneg fun other _ => Tensor.entry_nonneg table.weights_valid other parent) _

theorem entry_nonneg (table : ConditionalTable ℚ rank) (row parent : Nat) :
    0 ≤ table.probabilities.entry row parent := by
  rw [table.entry_eq_share]
  exact ValueVector.share_nonneg (Tensor.entry_nonneg table.weights_valid row parent)

/-- An outcome has a probability exactly if it was given a positive weight; without any weight, a
parent value has no outcome. -/
theorem entry_ne_zero_iff (table : ConditionalTable ℚ rank) (row parent : Nat) :
    table.probabilities.entry row parent ≠ 0 ↔ 0 < table.weights.entry row parent := by
  have nonneg (other : Nat) : 0 ≤ table.weights.entry other parent :=
    Tensor.entry_nonneg table.weights_valid other parent
  rw [table.entry_eq_share]
  exact ValueVector.share_ne_zero_iff (nonneg row) (ValueVector.le_sum_range nonneg
    fun behind => Tensor.entry_eq_zero table.weights (Or.inl behind))

/-- The probabilities of the outcomes of one parent value sum up to at most one. -/
theorem sum_entry_le_one (table : ConditionalTable ℚ rank) (parent : Nat) :
    ∑ row ∈ Finset.range table.weights.rows, table.probabilities.entry row parent ≤ 1 := by
  simp only [table.entry_eq_share]
  exact ValueVector.sum_share_le_one table.weights.rows fun row => table.weights.entry row parent

end ConditionalTable

end RecursiveBayes
