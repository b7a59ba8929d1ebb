/-
This file says what the constructors return. What is accepted is kept as it was given:
a constructor returns a value exactly if the value holds the data of the request. The
value carries the proof that its data are sound, so a request is accepted exactly if
its data are the data of some value.
-/

import RecursiveBayes.Network.Basic
import RecursiveBayes.Proofs.Protocol.Running

namespace RecursiveBayes

/-! ### Variables and tables -/

theorem Variable.build_eq_ok_iff {α : Type} {cardinality : Nat} {domain : Variable} :
    (Variable.build cardinality : Built α Variable) = .ok domain ↔
      domain.cardinality = cardinality := by
  rw [Variable.build]
  constructor
  · intro built
    split at built
    · cases built
      rfl
    · cases built
  · rintro rfl
    exact dif_pos domain.cardinality_pos

variable {α : Type} [Scalar α]

theorem ConditionalTable.build_eq_ok_iff {rank : Nat} {holder : String} {weights : Tensor α rank}
    {table : ConditionalTable α rank} :
    ConditionalTable.build holder weights = .ok table ↔ table.weights = weights := by
  rw [ConditionalTable.build]
  constructor
  · intro built
    split at built
    · cases built
    · split at built
      · cases built
      · cases built
        rfl
  · rintro rfl
    obtain ⟨weights, probabilities, valid, nonempty, shares⟩ := table
    subst shares
    split
    · rename_i weight invalid
      cases valid.symm.trans invalid
    · exact dif_neg (nonempty ▸ Bool.false_ne_true)

/-! ### Transitions -/

theorem TerminalTransition.build_eq_ok_iff {weights : Tensor α 1}
    {transition : TerminalTransition α} :
    TerminalTransition.build weights = .ok transition ↔ transition.table.weights = weights := by
  rw [TerminalTransition.build, bind_eq_ok_iff, ← ConditionalTable.build_eq_ok_iff]
  constructor
  · rintro ⟨table, built, same⟩
    cases same
    exact built
  · exact fun built => ⟨transition.table, built, rfl⟩

theorem BinaryTransition.build_eq_ok_iff {weights : Tensor α 2} {children : Option (Nat × Nat)}
    {transition : BinaryTransition α} :
    BinaryTransition.build weights children = .ok transition ↔
      transition.table.weights = weights ∧ transition.children = children := by
  rw [BinaryTransition.build, bind_eq_ok_iff, ← ConditionalTable.build_eq_ok_iff]
  constructor
  · rintro ⟨table, built, same⟩
    cases same
    exact ⟨built, rfl⟩
  · rintro ⟨built, rfl⟩
    exact ⟨transition.table, built, rfl⟩

/-! ### Cells, priors and networks -/

/-- Where all transitions fit the variable, none is found not to fit. -/
theorem Cell.firstMisfit?_eq_none (cell : Cell α) :
    firstMisfit? cell.domain cell.transitions = none := by
  refine List.find?_eq_none.mpr ?_
  rintro ⟨transition, position⟩ member
  have fits := cell.parents_eq transition (List.fst_mem_of_mem_zipIdx member)
  simpa using fits

theorem Cell.build_eq_ok_iff {domain : Variable} {weights : ValueVector α}
    {transitions : List (Transition α)} {cell : Cell α} :
    Cell.build domain weights transitions = .ok cell ↔
      cell.domain = domain ∧ cell.weights = weights ∧ cell.transitions = transitions := by
  rw [Cell.build]
  constructor
  · intro built
    split at built
    · cases built
    · split at built
      · split at built
        · cases built
        · cases built
          exact ⟨rfl, rfl, rfl⟩
      · cases built
  · rintro ⟨rfl, rfl, rfl⟩
    split
    · rename_i weight invalid
      cases cell.weights_valid.symm.trans invalid
    · rw [dif_pos cell.length_weights]
      split
      · rename_i misfit found
        cases cell.firstMisfit?_eq_none.symm.trans found
      · rfl

/-- Where all weights of the values are sound, no defect is found. -/
theorem Prior.firstDefect?_eq_none (prior : Prior α) :
    Prior.firstDefect? prior.valueWeights = none := by
  refine List.findSome?_eq_none_iff.mpr fun weights member => ?_
  rw [prior.valueWeights_valid weights member]
  exact if_neg fun empty => prior.valueWeights_nonempty weights member (List.isEmpty_iff.mp empty)

theorem Prior.build_eq_ok_iff {structuralWeights : ValueVector α}
    {valueWeights : List (ValueVector α)} {prior : Prior α} :
    Prior.build structuralWeights valueWeights = .ok prior ↔
      prior.structuralWeights = structuralWeights ∧ prior.valueWeights = valueWeights := by
  rw [Prior.build]
  constructor
  · intro built
    split at built
    · cases built
    · split at built
      · split at built
        · cases built
        · cases built
          exact ⟨rfl, rfl⟩
      · cases built
  · rintro ⟨rfl, rfl⟩
    split
    · rename_i weight invalid
      cases prior.structuralWeights_valid.symm.trans invalid
    · rw [dif_pos prior.length_structuralWeights]
      split
      · rename_i defect found
        cases prior.firstDefect?_eq_none.symm.trans found
      · rfl

theorem Network.build_eq_ok_iff {cells : List (Cell α)} {prior : Prior α}
    {configuration : Configuration} {network : Network α} :
    Network.build cells prior configuration = .ok network ↔
      network.cells = cells ∧ network.prior = prior ∧ network.configuration = configuration := by
  rw [Network.build]
  constructor
  · intro built
    split at built
    · cases built
    · cases built
      exact ⟨rfl, rfl, rfl⟩
  · rintro ⟨rfl, rfl, rfl⟩
    split
    · rename_i defect found
      cases network.sound.symm.trans found
    · rfl

end RecursiveBayes
