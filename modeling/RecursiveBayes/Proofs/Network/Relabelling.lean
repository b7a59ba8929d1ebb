/-
This file gives the cells of a network and the values of each cell new numbers. The
children of every binary transition are named by their new numbers, also where the
transition left it to its own cell, and every axis that stands for the values of a
cell is rearranged like the values of that cell. The axis of the symbols stays.

A relabelled network is the same network. Its schedule reaches the cells in another
order, and its sums run over the values in another order, but the work on spans of
one length does not depend on its order, and sums do not either.
-/

import RecursiveBayes.Proofs.Network.Redrawing

open RecursiveBayes.Action

namespace RecursiveBayes

/-! ### Relabelled drafts -/

namespace Tensor

variable {rank : Nat}

/-- The table with its parent values rearranged. -/
def rearrangedParents (parents : Equiv.Perm Nat) (weights : Tensor ℚ rank) : Tensor ℚ rank :=
  generate weights.outcomes weights.parents fun row parent =>
    weights.entry row (parents.symm parent)

/-- The table over pairs with its left, right and parent values rearranged. -/
def rearrangedPairs (left right parents : Equiv.Perm Nat) (weights : Tensor ℚ 2) : Tensor ℚ 2 :=
  ofPairs weights.leftAxis weights.rightAxis weights.parents
    fun leftValue rightValue parent =>
      weights.pairEntry (left.symm leftValue) (right.symm rightValue) (parents.symm parent)

/-- The weights of a parent value are found at its new number. -/
theorem entry_rearrangedParents {weights : Tensor ℚ rank} {parents : Equiv.Perm Nat}
    (stays : StaysBelow weights.parents parents) (row parent : Nat) :
    (weights.rearrangedParents parents).entry row (parents parent) = weights.entry row parent := by
  by_cases inside : row < weights.rows ∧ parent < weights.parents
  · rw [rearrangedParents, entry_generate _ _ _ inside.1 ((stays parent).mpr inside.2),
      parents.symm_apply_apply]
  · have outside := (not_and_or.mp inside).imp Nat.le_of_not_lt Nat.le_of_not_lt
    rw [entry_eq_zero weights outside]
    refine entry_eq_zero _ (outside.imp_right fun behind => ?_)
    exact Nat.le_of_not_lt (mt (stays parent).mp (Nat.not_lt.mpr behind))

/-- The weight of a pair and a parent value is found at their new numbers. -/
theorem pairEntry_rearrangedPairs {weights : Tensor ℚ 2} {left right parents : Equiv.Perm Nat}
    (leftStays : StaysBelow weights.leftAxis left)
    (rightStays : StaysBelow weights.rightAxis right)
    (parentsStay : StaysBelow weights.parents parents) {leftValue rightValue parent : Nat}
    (leftLt : leftValue < weights.leftAxis) (rightLt : rightValue < weights.rightAxis)
    (parentLt : parent < weights.parents) :
    (weights.rearrangedPairs left right parents).pairEntry (left leftValue) (right rightValue)
        (parents parent) = weights.pairEntry leftValue rightValue parent := by
  rw [rearrangedPairs, pairEntry_ofPairs _ ((leftStays _).mpr leftLt) ((rightStays _).mpr rightLt)
    ((parentsStay _).mpr parentLt), left.symm_apply_apply, right.symm_apply_apply,
    parents.symm_apply_apply]

theorem Sound.rearrangedParents {weights : Tensor ℚ rank} (sound : weights.Sound)
    (parents : Equiv.Perm Nat) : (weights.rearrangedParents parents).Sound := by
  obtain ⟨rowsPos, parentsPos⟩ := isEmpty_eq_false_iff.mp sound.nonempty
  exact sound_generate rowsPos parentsPos fun _ _ =>
    decide_eq_true (entry_nonneg sound.valid _ _)

theorem Sound.rearrangedPairs {weights : Tensor ℚ 2} (sound : weights.Sound)
    (left right parents : Equiv.Perm Nat) : (weights.rearrangedPairs left right parents).Sound := by
  obtain ⟨leftPos, rightPos, parentsPos⟩ := sound.axes_pos
  exact sound_ofPairs leftPos rightPos parentsPos fun _ _ _ =>
    decide_eq_true (entry_nonneg sound.valid _ _)

end Tensor

section Relabelled

variable (number : Equiv.Perm Nat) (values : Nat → Equiv.Perm Nat)

/-- A transition of the cell that had the number `owner`, in terms of the new numbers. -/
def TransitionDraft.relabelled (owner : Nat) : TransitionDraft ℚ → TransitionDraft ℚ
  | terminal weights => .terminal (weights.rearrangedParents (values owner))
  | binary weights children =>
    let left := (children.map Prod.fst).getD owner
    let right := (children.map Prod.snd).getD owner
    .binary (weights.rearrangedPairs (values left) (values right) (values owner))
      (some (number left, number right))

/-- The weights of the cells and of their values at the new numbers. -/
def PriorDraft.relabelled (draft : PriorDraft ℚ) : PriorDraft ℚ where
  structural := rearranged number draft.structural
  values := rearranged number (draft.values.mapIdx fun owner weights =>
    rearranged (values owner) weights)

/-- The network in terms of the new numbers. -/
def NetworkDraft.relabelled (draft : NetworkDraft ℚ) : NetworkDraft ℚ where
  cells := rearranged number (draft.cells.mapIdx fun owner cell =>
    cell.redrawn (TransitionDraft.relabelled number values owner))
  prior := draft.prior.relabelled number values
  configuration := draft.configuration

end Relabelled

section Soundness

variable {number : Equiv.Perm Nat} {values : Nat → Equiv.Perm Nat}

theorem TransitionDraft.Sound.relabelled {transition : TransitionDraft ℚ}
    (sound : transition.Sound) (owner : Nat) :
    (transition.relabelled number values owner).Sound ∧
      (transition.relabelled number values owner).parents = transition.parents := by
  cases transition with
  | terminal weights => exact ⟨Tensor.Sound.rearrangedParents sound _, rfl⟩
  | binary weights children => exact ⟨Tensor.Sound.rearrangedPairs sound _ _ _, rfl⟩

namespace PriorDraft

variable {draft : PriorDraft ℚ}

theorem length_relabelled (numbers : StaysBelow draft.values.length number) :
    (draft.relabelled number values).values.length = draft.values.length := by
  have stays : StaysBelow (draft.values.mapIdx fun owner weights =>
      rearranged (values owner) weights).length number := by rwa [List.length_mapIdx]
  exact (length_rearranged stays).trans List.length_mapIdx

/-- The weights of the values of every cell are found at its new number. -/
theorem getElem?_relabelled (numbers : StaysBelow draft.values.length number) (index : Nat) :
    (draft.relabelled number values).values[number index]? =
      draft.values[index]?.map (rearranged (values index)) := by
  refine (getElem?_rearranged_apply ?_ index).trans List.getElem?_mapIdx
  rwa [List.length_mapIdx]

/-- A relabelled prior is sound, if the new numbers fit the cells and their values. -/
theorem Sound.relabelled (sound : draft.Sound) (numbers : StaysBelow draft.values.length number)
    (valuesStay : ∀ (index : Nat) (weights : ValueVector ℚ), draft.values[index]? = some weights →
      StaysBelow weights.length (values index)) : (draft.relabelled number values).Sound where
  structural_valid := ValueVector.firstInvalid?_rearranged sound.structural_valid
  length_structural := by
    rw [length_relabelled numbers, ← sound.length_structural]
    exact length_rearranged (sound.length_structural ▸ numbers)
  values_valid weights member := by
    obtain ⟨index, inside, rfl⟩ := List.mem_mapIdx.mp (mem_of_mem_rearranged member)
    exact ValueVector.firstInvalid?_rearranged (sound.values_valid _ (List.getElem_mem inside))
  values_nonempty weights member := by
    obtain ⟨index, inside, rfl⟩ := List.mem_mapIdx.mp (mem_of_mem_rearranged member)
    have stays := valuesStay index _ (List.getElem?_eq_getElem inside)
    rw [← List.length_pos_iff, length_rearranged stays, List.length_pos_iff]
    exact sound.values_nonempty _ (List.getElem_mem inside)

end PriorDraft

/-- The new numbers, and new transitions in terms of them, for phrases as they are. -/
def Redrawing.relabelling (number : Equiv.Perm Nat) (values : Nat → Equiv.Perm Nat) :
    Redrawing where
  number := number
  values := values
  transition := TransitionDraft.relabelled number values
  turn := id

theorem NetworkDraft.draws_relabelled {draft : NetworkDraft ℚ}
    (numbers : StaysBelow draft.cells.length number) :
    (Redrawing.relabelling number values).Draws draft (draft.relabelled number values) := by
  intro index
  refine (getElem?_rearranged_apply ?_ index).trans List.getElem?_mapIdx
  rwa [List.length_mapIdx]

/-- A relabelled network is sound, if the new numbers fit the cells and their values. -/
theorem NetworkDraft.Sound.relabelled {draft : NetworkDraft ℚ} (sound : draft.Sound)
    (numbers : StaysBelow draft.cells.length number)
    (valuesStay : ∀ (index : Nat) (cell : CellDraft ℚ), draft.cells[index]? = some cell →
      StaysBelow cell.cardinality (values index)) :
    (draft.relabelled number values).Sound := by
  have draws : (Redrawing.relabelling number values).Draws draft (draft.relabelled number values) :=
    draws_relabelled numbers
  have priorNumbers : StaysBelow draft.prior.values.length number := sound.length_prior ▸ numbers
  have weightsStay (index : Nat) (weights : ValueVector ℚ)
      (found : draft.prior.values[index]? = some weights) :
      StaysBelow weights.length (values index) := by
    obtain ⟨indexLt, _⟩ := List.getElem?_eq_some_iff.mp found
    have foundCell := List.getElem?_eq_getElem (sound.length_prior ▸ indexLt)
    rw [sound.length_values index _ weights foundCell found]
    exact valuesStay index _ foundCell
  refine draws.sound sound
    (fun index transition transitionSound => transitionSound.relabelled index)
    (fun index transition fits => ?_) (sound.prior.relabelled priorNumbers weightsStay) ?_
    fun index weights found => ?_
  · cases transition with
    | terminal weights => trivial
    | binary weights children => exact ⟨draws.hasChild fits.1, draws.hasChild fits.2⟩
  · rw [draws.length_cells numbers, ← sound.length_prior]
    exact PriorDraft.length_relabelled priorNumbers
  · have moved := (PriorDraft.getElem?_relabelled priorNumbers index).symm.trans found
    obtain ⟨original, foundOriginal, rfl⟩ := Option.map_eq_some_iff.mp moved
    exact ⟨original, foundOriginal, length_rearranged (weightsStay index original foundOriginal)⟩

end Soundness

/-! ### Contributions -/

/-- An observation is as probable from a value as it was under its old number. -/
theorem TerminalTransition.observed_rearranged {transition image : TerminalTransition ℚ}
    {parents : Equiv.Perm Nat}
    (drawn : image.table.weights = transition.table.weights.rearrangedParents parents)
    (stays : StaysBelow transition.parentCardinality parents) (observation : Option Nat)
    (value : Nat) :
    image.observed observation (parents value) = transition.observed observation value := by
  have known : image.terminalCardinality = transition.terminalCardinality := by
    rw [terminalCardinality, ConditionalTable.outcomes, drawn]
    rfl
  have rows : image.table.weights.rows = transition.table.weights.rows := by
    rw [drawn]
    rfl
  have weight (symbol : Nat) : image.table.weights.entry symbol (parents value) =
      transition.table.weights.entry symbol value := by
    rw [drawn]
    exact Tensor.entry_rearrangedParents stays symbol value
  cases observation with
  | none => rfl
  | some symbol =>
    simp only [observed, probability, ConditionalTable.entry_eq_share, known, rows, weight]

namespace BinaryTransition

variable {transition image : BinaryTransition ℚ} {left right parents : Equiv.Perm Nat}

theorem axes_of_rearranged
    (drawn : image.table.weights = transition.table.weights.rearrangedPairs left right parents) :
    image.leftCardinality = transition.leftCardinality ∧
      image.rightCardinality = transition.rightCardinality := by
  constructor
  · rw [leftCardinality, ConditionalTable.outcomes, drawn]
    rfl
  · rw [rightCardinality, ConditionalTable.outcomes, drawn]
    rfl

/-- The children are named by their new numbers. -/
theorem children_of_relabelled {number : Equiv.Perm Nat} {owner : Nat}
    (named : image.children =
      some (number (transition.leftIndex owner), number (transition.rightIndex owner))) :
    image.leftIndex (number owner) = number (transition.leftIndex owner) ∧
      image.rightIndex (number owner) = number (transition.rightIndex owner) := by
  constructor
  · rw [leftIndex, named]
    rfl
  · rw [rightIndex, named]
    rfl

/-- A pair is as probable as it was under the old numbers. -/
theorem probability_rearranged
    (drawn : image.table.weights = transition.table.weights.rearrangedPairs left right parents)
    (leftStays : StaysBelow transition.leftCardinality left)
    (rightStays : StaysBelow transition.rightCardinality right)
    (parentsStay : StaysBelow transition.parentCardinality parents)
    {leftValue rightValue value : Nat} (leftLt : leftValue < transition.leftCardinality)
    (rightLt : rightValue < transition.rightCardinality)
    (valueLt : value < transition.parentCardinality) :
    image.probability (left leftValue) (right rightValue) (parents value) =
      transition.probability leftValue rightValue value := by
  have weight {leftValue rightValue : Nat} (leftLt : leftValue < transition.leftCardinality)
      (rightLt : rightValue < transition.rightCardinality) :
      image.table.weights.pairEntry (left leftValue) (right rightValue) (parents value) =
        transition.table.weights.pairEntry leftValue rightValue value := by
    rw [drawn]
    exact Tensor.pairEntry_rearrangedPairs leftStays rightStays parentsStay leftLt rightLt valueLt
  obtain ⟨leftAxis, rightAxis⟩ := axes_of_rearranged drawn
  rw [probability_eq_share, probability_eq_share, weight leftLt rightLt, leftAxis, rightAxis,
    ← leftStays.sum_range]
  congr 1
  refine Finset.sum_congr rfl fun other member => ?_
  rw [← rightStays.sum_range]
  exact Finset.sum_congr rfl fun another inside =>
    weight (Finset.mem_range.mp member) (Finset.mem_range.mp inside)

end BinaryTransition

/-! ### Relabellings -/

/-- A permutation of the cells of a network and, for each cell, a permutation of its values. -/
structure Relabelling (network : Network ℚ) where
  cells : Equiv.Perm (Fin network.cells.length)
  values : ∀ index : Fin network.cells.length,
    Equiv.Perm (Fin (network.cells.get index).cardinality)

namespace Relabelling

variable {network image : Network ℚ} (relabelling : Relabelling network)

/-- The new number of every cell. -/
def number : Equiv.Perm Nat :=
  extended relabelling.cells

/-- The new number of every value of a cell. The cell is given by its old number. -/
def valueNumber (index : Nat) : Equiv.Perm Nat :=
  if inside : index < network.cells.length then
    extended (relabelling.values ⟨index, inside⟩)
  else
    Equiv.refl Nat

/-- The network with the new numbers. -/
def draft : NetworkDraft ℚ :=
  network.draft.relabelled relabelling.number relabelling.valueNumber

theorem number_stays : StaysBelow network.cells.length relabelling.number :=
  staysBelow_extended relabelling.cells

theorem valueNumber_stays {index : Nat} {cell : Cell ℚ}
    (found : network.cells[index]? = some cell) :
    StaysBelow cell.cardinality (relabelling.valueNumber index) := by
  obtain ⟨inside, rfl⟩ := List.getElem?_eq_some_iff.mp found
  rw [valueNumber, dif_pos inside]
  exact staysBelow_extended (relabelling.values ⟨index, inside⟩)

/-- The new numbers of the values stay below the sizes of the axes that stand for them. -/
theorem axes_stay {index : Nat} {cell : Cell ℚ} {transition : BinaryTransition ℚ}
    (found : network.cells[index]? = some cell)
    (member : Transition.binary transition ∈ cell.transitions) :
    StaysBelow transition.leftCardinality
        (relabelling.valueNumber (transition.leftIndex index)) ∧
      StaysBelow transition.rightCardinality
        (relabelling.valueNumber (transition.rightIndex index)) ∧
      StaysBelow transition.parentCardinality (relabelling.valueNumber index) := by
  have parents : transition.parentCardinality = cell.cardinality := cell.parents_eq _ member
  obtain ⟨⟨leftCell, foundLeft, leftFits⟩, ⟨rightCell, foundRight, rightFits⟩⟩ :=
    network.exists_children found member
  rw [← leftFits, ← rightFits, parents]
  exact ⟨relabelling.valueNumber_stays foundLeft, relabelling.valueNumber_stays foundRight,
    relabelling.valueNumber_stays found⟩

/-- They also stay below the numbers of weights that the prior has for the values. -/
theorem valueWeights_stay {index : Nat} {weights : ValueVector ℚ}
    (found : network.prior.valueWeights[index]? = some weights) :
    StaysBelow weights.length (relabelling.valueNumber index) := by
  have counts : network.prior.valueWeights.length = network.cells.length :=
    network.cellCount_prior
  obtain ⟨indexLt, _⟩ := List.getElem?_eq_some_iff.mp found
  have foundCell := List.getElem?_eq_getElem (counts ▸ indexLt)
  obtain ⟨others, foundOthers, lengths, _⟩ := network.sound_cell foundCell
  cases found.symm.trans foundOthers
  rw [lengths]
  exact relabelling.valueNumber_stays foundCell

theorem sound_draft : relabelling.draft.Sound := by
  refine network.sound_draft.relabelled ?_ fun index draft found => ?_
  · rw [Network.draft, List.length_map]
    exact relabelling.number_stays
  · rw [Network.draft, List.getElem?_map, Option.map_eq_some_iff] at found
    obtain ⟨cell, foundCell, rfl⟩ := found
    exact relabelling.valueNumber_stays foundCell

/-- The network is redrawn with the new numbers. -/
def redrawing : Redrawing :=
  .relabelling relabelling.number relabelling.valueNumber

variable {relabelling}

/-- A network and its relabelling are related by the new numbers. -/
theorem relates (drawn : image.draft = relabelling.draft) :
    relabelling.redrawing.Relates network image where
  configuration := congrArg NetworkDraft.configuration drawn
  cells index := by
    rw [drawn]
    refine NetworkDraft.draws_relabelled ?_ index
    rw [Network.draft, List.length_map]
    exact relabelling.number_stays
  root index := by
    have weights : image.prior.structuralWeights =
        rearranged relabelling.number network.prior.structuralWeights :=
      congrArg (fun draft => draft.prior.structural) drawn
    have lengths : network.prior.structuralWeights.length = network.cells.length :=
      network.prior.length_structuralWeights.trans network.cellCount_prior
    rw [Network.rootProbability, Prior.structural, weights]
    exact ValueVector.getD_normalized_rearranged (lengths ▸ relabelling.number_stays) index
  rootValue index value := by
    have weights : image.prior.valueWeights =
        (network.draft.prior.relabelled relabelling.number relabelling.valueNumber).values :=
      congrArg (fun draft => draft.prior.values) drawn
    have counts : network.draft.prior.values.length = network.cells.length :=
      network.cellCount_prior
    have moved : image.prior.valueWeights[relabelling.number index]? =
        network.prior.valueWeights[index]?.map (rearranged (relabelling.valueNumber index)) := by
      rw [weights]
      exact PriorDraft.getElem?_relabelled (counts ▸ relabelling.number_stays) index
    show image.rootValueProbability (relabelling.number index)
      (relabelling.valueNumber index value) = _
    rw [Network.rootValueProbability_eq, Network.rootValueProbability_eq,
      List.getD_eq_getElem?_getD (l := image.prior.valueWeights), moved,
      List.getD_eq_getElem?_getD (l := network.prior.valueWeights)]
    cases found : network.prior.valueWeights[index]? with
    | none => rfl
    | some valueWeights =>
      exact ValueVector.getD_normalized_rearranged (relabelling.valueWeights_stay found) value
  number_stays := relabelling.number_stays
  values_stay index cell found := relabelling.valueNumber_stays found

/-- A binary transition explains a phrase from the new cells and values as from the old ones. -/
theorem contribution_binary {transition imageTransition : BinaryTransition ℚ} {cell : Cell ℚ}
    {index value : Nat} {phrase : Phrase} (found : network.cells[index]? = some cell)
    (member : Transition.binary transition ∈ cell.transitions) (valueLt : value < cell.cardinality)
    (drawn : (Transition.binary imageTransition).draft =
      relabelling.redrawing.transition index (Transition.binary transition).draft)
    (shorter : ∀ part : Phrase, part.length < phrase.length →
      relabelling.redrawing.Matches network image part) :
    image.contribution (relabelling.number index) phrase (relabelling.valueNumber index value)
        (.binary imageTransition) =
      network.contribution index phrase value (.binary transition) := by
  have parents : transition.parentCardinality = cell.cardinality := cell.parents_eq _ member
  obtain ⟨leftStays, rightStays, parentsStay⟩ := relabelling.axes_stay found member
  obtain ⟨table, named⟩ := TransitionDraft.binary.inj drawn
  obtain ⟨leftAxis, rightAxis⟩ := BinaryTransition.axes_of_rearranged table
  obtain ⟨leftIndex, rightIndex⟩ := BinaryTransition.children_of_relabelled named
  rw [Network.contribution, Network.contribution, leftAxis, rightAxis, leftIndex, rightIndex]
  refine Finset.sum_congr rfl fun point member => ?_
  obtain ⟨leftShorter, rightShorter⟩ := Trees.length_parts_lt member
  rw [← leftStays.sum_range]
  refine Finset.sum_congr rfl fun leftValue leftMember => ?_
  rw [← rightStays.sum_range]
  refine Finset.sum_congr rfl fun rightValue rightMember => ?_
  have left : image.insideEntry (relabelling.number (transition.leftIndex index))
      (phrase.take point) (relabelling.valueNumber (transition.leftIndex index) leftValue) =
        network.insideEntry (transition.leftIndex index) (phrase.take point) leftValue :=
    shorter _ leftShorter _ _
  have right : image.insideEntry (relabelling.number (transition.rightIndex index))
      (phrase.drop point) (relabelling.valueNumber (transition.rightIndex index) rightValue) =
        network.insideEntry (transition.rightIndex index) (phrase.drop point) rightValue :=
    shorter _ rightShorter _ _
  have probability : imageTransition.probability
      (relabelling.valueNumber (transition.leftIndex index) leftValue)
      (relabelling.valueNumber (transition.rightIndex index) rightValue)
      (relabelling.valueNumber index value) = transition.probability leftValue rightValue value :=
    BinaryTransition.probability_rearranged table leftStays rightStays parentsStay
      (Finset.mem_range.mp leftMember) (Finset.mem_range.mp rightMember) (parents ▸ valueLt)
  rw [left, right, probability]

/-- A single observation is explained by a terminal transition from the new values as from the old
ones. -/
theorem contribution_terminal {transition imageTransition : TerminalTransition ℚ} {cell : Cell ℚ}
    {index : Nat} (found : network.cells[index]? = some cell)
    (member : Transition.terminal transition ∈ cell.transitions)
    (drawn : (Transition.terminal imageTransition).draft =
      relabelling.redrawing.transition index (Transition.terminal transition).draft)
    (phrase : Phrase) (value : Nat) :
    image.contribution (relabelling.number index) phrase (relabelling.valueNumber index value)
        (.terminal imageTransition) =
      network.contribution index phrase value (.terminal transition) := by
  have parents : transition.parentCardinality = cell.cardinality := cell.parents_eq _ member
  have stays := relabelling.valueNumber_stays found
  rw [← parents] at stays
  match phrase with
  | [] => rfl
  | [observation] =>
    exact TerminalTransition.observed_rearranged (TransitionDraft.terminal.inj drawn) stays
      observation value
  | _ :: _ :: _ => rfl

theorem contributes (phrase : Phrase)
    (shorter : ∀ part : Phrase, part.length < phrase.length →
      relabelling.redrawing.Matches network image part) :
    relabelling.redrawing.Contributes network image phrase := by
  intro index value cell found valueLt transition member imageTransition drawn
  cases transition with
  | terminal terminal =>
    cases imageTransition with
    | terminal imageTerminal => exact contribution_terminal found member drawn phrase value
    | binary imageBinary => cases drawn
  | binary binary =>
    cases imageTransition with
    | terminal imageTerminal => cases drawn
    | binary imageBinary => exact contribution_binary found member valueLt drawn shorter

end Relabelling

/-! ### Relabelled passes -/

/-- Relabelling: a network with its cells and their values relabelled is accepted. For every
accepted sequence, its pass gives the same probability as the pass of the network, and the vectors
of every cell stand at its new number, rearranged like its values. -/
theorem Network.relabelled_pass_rearranges_chart (network : Network ℚ)
    (relabelling : Relabelling network) :
    ∃ image, relabelling.draft.build = .ok image ∧
      ∀ terminals : TerminalChart, network.accepts terminals.length = true →
        network.Fits terminals.length → ∀ before imageBefore : Workspace ℚ,
          ∃ marginal after imageAfter,
            runOn (network.insideObserved terminals) before = (.ok marginal, after) ∧
            runOn (image.insideObserved terminals) imageBefore = (.ok marginal, imageAfter) ∧
            ∀ index span, imageAfter.chart.get? (relabelling.number index) span =
              (after.chart.get? index span).map (rearranged (relabelling.valueNumber index)) := by
  obtain ⟨image, built⟩ := NetworkDraft.exists_build_iff.mpr relabelling.sound_draft
  refine ⟨image, built, fun terminals accepted fits before imageBefore => ?_⟩
  have relates := Relabelling.relates (NetworkDraft.build_eq_ok_iff.mp built)
  have same := relates.matches_all Relabelling.contributes
  obtain ⟨marginal, after, imageAfter, ran, imageRan, reads, imageReads⟩ :=
    relates.passes same (fun _ => rfl) accepted fits before imageBefore
  refine ⟨marginal, after, imageAfter, ran, imageRan, fun index span => ?_⟩
  refine (imageReads index span).trans ?_
  rw [reads]
  split
  · rename_i inside
    have found := List.getElem?_eq_getElem (l := network.cells) inside.1
    exact congrArg some (relates.insideVector_eq (same _) found)
  · rfl

/-- Every cell and every value gets the next number, and the last one the number zero. -/
def Relabelling.rotation (network : Network ℚ) : Relabelling network where
  cells := finRotate _
  values _ := finRotate _

/-- In the small network, rotating exchanges the two cells and the two values of the first one. The
vectors of the first cell for three symbols are found in the chart of the other network as those
of the second cell. -/
theorem Network.specimen_rotated_rearranges_chart :
    specimen.Fits 3 ∧ (Relabelling.rotation specimen).number 0 = 1 ∧
      (Relabelling.rotation specimen).valueNumber 0 0 = 1 ∧
      ∃ image, (Relabelling.rotation specimen).draft.build = .ok image ∧
        (runOn (image.insideObserved ⟨[some 0, none, some 1]⟩) .initial).1 =
          (runOn (specimen.insideObserved ⟨[some 0, none, some 1]⟩) .initial).1 ∧
        ∀ span,
          (runOn (image.insideObserved ⟨[some 0, none, some 1]⟩) .initial).2.chart.get? 1 span =
            ((runOn (specimen.insideObserved ⟨[some 0, none, some 1]⟩) .initial).2.chart.get? 0
              span).map (rearranged ((Relabelling.rotation specimen).valueNumber 0)) := by
  have fits : specimen.Fits 3 := fits_specimen (by decide)
  have next : (Relabelling.rotation specimen).number 0 = 1 := by decide
  obtain ⟨image, built, rearranges⟩ :=
    relabelled_pass_rearranges_chart specimen (Relabelling.rotation specimen)
  obtain ⟨marginal, after, imageAfter, ran, imageRan, moved⟩ :=
    rearranges ⟨[some 0, none, some 1]⟩ (by decide) fits .initial .initial
  refine ⟨fits, next, by decide, image, built, ?_, fun span => ?_⟩
  · rw [ran, imageRan]
  · rw [ran, imageRan, ← next]
    exact moved 0 span

end RecursiveBayes
