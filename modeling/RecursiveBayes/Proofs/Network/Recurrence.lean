/-
This file gives the entries of inside vectors by a recurrence over the rational
numbers. An entry for a phrase sums over the transitions of the cell: a terminal
transition explains a phrase of one observation, and a binary one sums over the
split points of the phrase and the values of the two parts. The probability of a
sequence weighs the entries for the whole of it by the prior.

Sequences that have the same recurrence have the same probability, so what is
proved about the entries by induction on phrases holds for the pass.
-/

import RecursiveBayes.Proofs.Cell.Rational
import RecursiveBayes.Proofs.Network.Recursion

namespace RecursiveBayes

namespace Network

variable (network : Network ℚ)

/-- The probability that a value of a cell generates exactly some observations. -/
def insideEntry (index : Nat) (phrase : Phrase) (value : Nat) : ℚ :=
  (network.insideVector index phrase).getD value 0

/-- What a transition of a cell contributes to a value for a phrase, if it is chosen. -/
def contribution (index : Nat) (phrase : Phrase) (value : Nat) : Transition ℚ → ℚ
  | .terminal transition =>
    match phrase with
    | [observation] => transition.observed observation value
    | _ => 0
  | .binary transition =>
    ∑ point ∈ Finset.Ico 1 phrase.length,
      ∑ leftValue ∈ Finset.range transition.leftCardinality,
        ∑ rightValue ∈ Finset.range transition.rightCardinality,
          transition.probability leftValue rightValue value *
            (network.insideEntry (transition.leftIndex index) (phrase.take point) leftValue *
              network.insideEntry (transition.rightIndex index) (phrase.drop point) rightValue)

variable {network}

/-- There is no entry for a value that no cell with the given number has. -/
theorem insideEntry_eq_zero {index value : Nat} (phrase : Phrase)
    (outside : ¬ ∃ cell, network.cells[index]? = some cell ∧ value < cell.cardinality) :
    network.insideEntry index phrase value = 0 := by
  rw [insideEntry, List.getD_eq_getElem?_getD, List.getElem?_eq_none]
  · rfl
  · cases found : network.cells[index]? with
    | none =>
      rw [insideVector, found]
      exact Nat.zero_le value
    | some cell =>
      rw [network.length_insideVector found]
      exact Nat.le_of_not_lt fun valueLt => outside ⟨cell, found, valueLt⟩

/-- What a terminal transition contributes to a phrase depends on the phrase only. -/
theorem contribution_terminal {cell : Cell ℚ} {index value : Nat} {phrase : Phrase}
    {transition : TerminalTransition ℚ} :
    cell.contribution index phrase.analysis network.insideVector value (.terminal transition) =
      network.contribution index phrase value (.terminal transition) := by
  match phrase with
  | [] => rfl
  | [observation] => rfl
  | first :: second :: rest =>
    have long : (first :: second :: rest).length ≠ 1 := by
      rw [List.length_cons, List.length_cons]
      omega
    simp only [Cell.contribution, contribution, Phrase.analysis, if_neg long]

theorem contribution_binary {cell : Cell ℚ} {index value : Nat}
    (found : network.cells[index]? = some cell) (valueLt : value < cell.cardinality)
    {phrase : Phrase} {transition : BinaryTransition ℚ}
    (member : Transition.binary transition ∈ cell.transitions) :
    cell.contribution index phrase.analysis network.insideVector value (.binary transition) =
      network.contribution index phrase value (.binary transition) := by
  have parents : transition.parentCardinality = cell.cardinality := cell.parents_eq _ member
  obtain ⟨⟨left, foundLeft, leftFits⟩, _⟩ := network.exists_children found member
  rw [Cell.contribution, ← parents, transition.getD_explain, contribution, Phrase.analysis,
    Phrase.splits, List.map_map, ValueVector.total_map_range']
  refine Finset.sum_congr rfl fun point _ => ?_
  have leftLength : (network.insideVector (transition.leftIndex index) (phrase.take point)).length =
      transition.leftCardinality := by
    rw [network.length_insideVector foundLeft, leftFits]
  exact transition.getD_contract leftLength (parents ▸ valueLt)

/-- The recurrence: an entry sums over the transitions of its cell, each with the probability that
it is chosen. -/
theorem insideEntry_eq_sum {cell : Cell ℚ} {index value : Nat}
    (found : network.cells[index]? = some cell) (valueLt : value < cell.cardinality)
    (phrase : Phrase) :
    network.insideEntry index phrase value =
      ∑ choice : Fin cell.choices.length, (cell.choices.get choice).2 *
        network.contribution index phrase value (cell.choices.get choice).1 := by
  rw [insideEntry, network.insideVector_eq found, cell.getD_explain]
  refine Finset.sum_congr rfl fun choice _ => ?_
  have member : cell.choices.get choice ∈ cell.choices := List.get_mem _ choice
  generalize cell.choices.get choice = chosen at member
  obtain ⟨transition, action⟩ := chosen
  cases transition with
  | terminal transition => rw [contribution_terminal]
  | binary transition =>
    rw [contribution_binary found valueLt (List.of_mem_zip member).1]

/-! ### The probability of a sequence -/

/-- The probability that the root is a cell. -/
def rootProbability (network : Network ℚ) (index : Nat) : ℚ :=
  network.prior.structural.getD index 0

/-- The probability of a value at the root, if the root is the given cell. -/
def rootValueProbability (network : Network ℚ) (index value : Nat) : ℚ :=
  (network.prior.values.getD index []).getD value 0

theorem valueWeights_valid (network : Network ℚ) (index : Nat) :
    ValueVector.firstInvalid? (network.prior.valueWeights.getD index []) = none := by
  rw [List.getD_eq_getElem?_getD]
  cases found : network.prior.valueWeights[index]? with
  | none => rfl
  | some weights =>
    exact network.prior.valueWeights_valid weights (List.mem_of_getElem? found)

/-- The values at the root have the shares of their weights, and none where there is no cell. -/
theorem rootValueProbability_eq (network : Network ℚ) (index value : Nat) :
    network.rootValueProbability index value =
      (ValueVector.normalized (network.prior.valueWeights.getD index [])).getD value 0 := by
  have here : network.prior.values.getD index [] =
      ValueVector.normalized (network.prior.valueWeights.getD index []) :=
    List.getD_map network.prior.valueWeights [] ValueVector.normalized
  rw [rootValueProbability, here]

/-- The number of values of a cell. -/
def cardinalityAt (network : Network ℚ) (index : Nat) : Nat :=
  network.cardinalities.getD index 0

theorem cardinalityAt_eq {index : Nat} {cell : Cell ℚ}
    (found : network.cells[index]? = some cell) :
    network.cardinalityAt index = cell.cardinality := by
  rw [cardinalityAt, cardinalities, List.getD_eq_getElem?_getD, List.getElem?_map, found]
  rfl

/-- The numbers that the prior and the root vectors have for one cell. -/
theorem getElem?_roots {index : Nat} {cell : Cell ℚ} (found : network.cells[index]? = some cell)
    (phrase : Phrase) :
    ∃ values : ValueVector ℚ, values.length = cell.cardinality ∧
      (∀ value, values.getD value 0 = network.rootValueProbability index value) ∧
      ((network.prior.structural.zip network.prior.values).zip
        ((List.range network.cellCount).map fun other =>
          network.insideVector other phrase))[index]? =
        some ((network.rootProbability index, values), network.insideVector index phrase) := by
  obtain ⟨indexLt, _⟩ := List.getElem?_eq_some_iff.mp found
  have counts := network.cellCount_prior
  have structuralLt : index < network.prior.structural.length := by
    rw [network.prior.length_structural, counts]
    exact indexLt
  have valuesLt : index < network.prior.values.length := by
    rw [network.prior.length_values, counts]
    exact indexLt
  have foundValues := List.getElem?_eq_getElem valuesLt
  refine ⟨network.prior.values[index], network.length_values found foundValues, fun value => ?_,
    ?_⟩
  · rw [rootValueProbability, List.getD_eq_getElem?_getD (i := index), foundValues,
      Option.getD_some]
  · refine List.getElem?_zip_eq_some.mpr ⟨List.getElem?_zip_eq_some.mpr ⟨?_, foundValues⟩, ?_⟩
    · rw [rootProbability, List.getD_eq_getElem?_getD, List.getElem?_eq_getElem structuralLt,
        Option.getD_some]
    · rw [List.getElem?_map, cellCount, List.getElem?_range indexLt]
      rfl

/-- The probability of a sequence weighs the entries of all cells for it by the prior. -/
theorem likelihood_eq_sum (network : Network ℚ) (phrase : Phrase) :
    network.likelihood phrase =
      ∑ index ∈ Finset.range network.cellCount, network.rootProbability index *
        ∑ value ∈ Finset.range (network.cardinalityAt index),
          network.rootValueProbability index value * network.insideEntry index phrase value := by
  have asTotal : network.likelihood phrase =
      ValueVector.runningTotal (((network.prior.structural.zip network.prior.values).zip
        ((List.range network.cellCount).map fun other =>
          network.insideVector other phrase)).map fun root =>
            root.1.1 * ValueVector.dot root.1.2 root.2) := by
    rw [ValueVector.runningTotal, List.foldl_map]
    rfl
  rw [asTotal, ValueVector.runningTotal_eq_total, ValueVector.total_eq_sum, List.length_map,
    List.length_zip, List.length_zip, network.prior.length_structural,
    network.prior.length_values, network.cellCount_prior, List.length_map, List.length_range,
    Nat.min_self, Nat.min_self]
  refine Finset.sum_congr rfl fun index member => ?_
  have found := List.getElem?_eq_getElem (l := network.cells) (Finset.mem_range.mp member)
  obtain ⟨values, lengths, entries, root⟩ := getElem?_roots found phrase
  have cardinality : network.cardinalityAt index = values.length :=
    (cardinalityAt_eq found).trans lengths.symm
  rw [List.getD_eq_getElem?_getD, List.getElem?_map, root, Option.map_some, Option.getD_some,
    ValueVector.dot_eq_sum, cardinality]
  simp only [entries, insideEntry]

end Network

end RecursiveBayes
