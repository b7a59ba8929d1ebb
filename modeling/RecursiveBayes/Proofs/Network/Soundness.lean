/-
This file reads off the check of a network what it guarantees: the prior covers
every cell with one weight per value, and each child of a binary transition is an
existing cell with as many values as the axis that stands for it. The inside pass
relies on these facts and on nothing else about the network.
-/

import RecursiveBayes.Network.Basic

namespace RecursiveBayes

variable {α : Type} [Scalar α]

/-! ### The prior -/

theorem Prior.length_values (prior : Prior α) : prior.values.length = prior.cellCount :=
  List.length_map _

theorem Prior.length_structural (prior : Prior α) : prior.structural.length = prior.cellCount := by
  rw [structural, ValueVector.length_normalized, prior.length_structuralWeights]
  rfl

namespace Network

/-- A sound network has a prior for as many cells as it has, and no defect in any cell. -/
theorem firstDefect?_eq_none_iff {cells : List (Cell α)} {prior : Prior α} :
    firstDefect? cells prior = none ↔
      prior.cellCount = cells.length ∧
        ∀ entry ∈ (cells.zip prior.valueWeights).zipIdx, cellDefect? cells entry = none := by
  rw [firstDefect?]
  split
  · rename_i counts
    rw [List.findSome?_eq_none_iff]
    exact ⟨fun sound => ⟨counts, sound⟩, fun both => both.2⟩
  · rename_i counts
    exact ⟨fun sound => (nomatch sound), fun both => absurd both.1 counts⟩

variable (network : Network α)

theorem cellCount_prior : network.prior.cellCount = network.cellCount :=
  (firstDefect?_eq_none_iff.mp network.sound).1

/-- The prior has one weight for each value of a cell, and no transition of the cell has a defect. -/
theorem sound_cell {index : Nat} {cell : Cell α} (found : network.cells[index]? = some cell) :
    ∃ weights, network.prior.valueWeights[index]? = some weights ∧
      weights.length = cell.cardinality ∧
      ∀ entry ∈ cell.transitions.zipIdx,
        transitionDefect? network.cells index entry = none := by
  obtain ⟨counts, cells⟩ := firstDefect?_eq_none_iff.mp network.sound
  have indexLt : index < network.prior.valueWeights.length := by
    obtain ⟨inside, _⟩ := List.getElem?_eq_some_iff.mp found
    rw [Prior.cellCount] at counts
    omega
  have weights := List.getElem?_eq_getElem indexLt
  refine ⟨_, weights, ?_⟩
  have zipped : (network.cells.zip network.prior.valueWeights)[index]? =
      some (cell, network.prior.valueWeights[index]) :=
    List.getElem?_zip_eq_some.mpr ⟨found, weights⟩
  have sound := cells ((cell, network.prior.valueWeights[index]), index)
    (List.mem_zipIdx_iff_getElem?.mpr zipped)
  rw [cellDefect?] at sound
  split at sound
  · rename_i lengths
    exact ⟨lengths, List.findSome?_eq_none_iff.mp sound⟩
  · cases sound

theorem length_values {index : Nat} {cell : Cell α} {values : ValueVector α}
    (found : network.cells[index]? = some cell)
    (foundValues : network.prior.values[index]? = some values) :
    values.length = cell.cardinality := by
  obtain ⟨weights, foundWeights, lengths, _⟩ := network.sound_cell found
  rw [Prior.values, List.getElem?_map, foundWeights, Option.map_some,
    Option.some.injEq] at foundValues
  rw [← foundValues, ValueVector.length_normalized, lengths]

/-- A child has no defect exactly if it is an existing cell with as many values as its axis. -/
theorem childDefect?_eq_none_iff {cells : List (Cell α)} {cell transition : Nat} {side : Side}
    {child axis : Nat} :
    childDefect? cells cell transition side child axis = none ↔
      ∃ found, cells[child]? = some found ∧ found.cardinality = axis := by
  rw [childDefect?]
  cases cells[child]? with
  | none => exact ⟨fun sound => (nomatch sound), fun ⟨_, absurdly, _⟩ => (nomatch absurdly)⟩
  | some found =>
    simp only [Option.some.injEq, exists_eq_left']
    split
    · rename_i fits
      exact ⟨fun _ => fits, fun _ => rfl⟩
    · rename_i differs
      exact ⟨fun sound => (nomatch sound), fun fits => absurd fits differs⟩

/-- Both children of a binary transition are cells that fit its axes. -/
theorem exists_children {index : Nat} {cell : Cell α} {transition : BinaryTransition α}
    (found : network.cells[index]? = some cell)
    (member : Transition.binary transition ∈ cell.transitions) :
    (∃ left, network.cells[transition.leftIndex index]? = some left ∧
      left.cardinality = transition.leftCardinality) ∧
    (∃ right, network.cells[transition.rightIndex index]? = some right ∧
      right.cardinality = transition.rightCardinality) := by
  obtain ⟨_, _, _, sound⟩ := network.sound_cell found
  obtain ⟨position, inside⟩ := List.getElem?_of_mem member
  have both := sound (.binary transition, position) (List.mem_zipIdx_iff_getElem?.mpr inside)
  obtain ⟨left, right⟩ := Option.or_eq_none_iff.mp both
  exact ⟨childDefect?_eq_none_iff.mp left, childDefect?_eq_none_iff.mp right⟩

end Network

end RecursiveBayes
