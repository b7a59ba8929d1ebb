/-
This file compares a network with one that is drawn after it. The cells of the second
network are those of the first one with new numbers, their values have new numbers
too, and each transition is made from the one at the same place of the cell that it is
drawn after. What the first network says about a phrase is compared with what the
second one says about the turned phrase.

Nothing is said here about how the transitions are made. If they contribute as much
as the ones that they are made from whenever this is so for shorter phrases, the two
networks have the same entries, under the new numbers, and give the same probability.
-/

import RecursiveBayes.Proofs.Network.Drafts
import RecursiveBayes.Proofs.Network.Recurrence
import RecursiveBayes.Proofs.Network.Total
import RecursiveBayes.Proofs.Trees
import RecursiveBayes.Proofs.Weights.Rearranged

open RecursiveBayes.Action

namespace RecursiveBayes

/-! ### Cells -/

/-- The draft with every transition made anew. -/
def CellDraft.redrawn {α : Type} (redraw : TransitionDraft α → TransitionDraft α)
    (draft : CellDraft α) : CellDraft α :=
  { draft with transitions := draft.transitions.map redraw }

/-- A redrawn cell is sound if its transitions are and keep their parent axis. -/
theorem CellDraft.Sound.redrawn {α : Type} [Scalar α] {draft : CellDraft α}
    {redraw : TransitionDraft α → TransitionDraft α} (sound : draft.Sound)
    (keeps : ∀ transition : TransitionDraft α, transition.Sound →
      (redraw transition).Sound ∧ (redraw transition).parents = transition.parents) :
    (draft.redrawn redraw).Sound where
  cardinality_pos := sound.cardinality_pos
  weights_valid := sound.weights_valid
  length_weights := sound.length_weights.trans (List.length_map _).symm
  transitions := List.forall_mem_map.mpr fun transition member =>
    (keeps transition (sound.transitions transition member)).1
  parents_eq := List.forall_mem_map.mpr fun transition member =>
    (keeps transition (sound.transitions transition member)).2.trans
      (sound.parents_eq transition member)

namespace Cell

variable {cell image : Cell ℚ} {redraw : TransitionDraft ℚ → TransitionDraft ℚ}

theorem cardinality_eq (drawn : image.draft = cell.draft.redrawn redraw) :
    image.cardinality = cell.cardinality :=
  congrArg CellDraft.cardinality drawn

/-- What is counted for each transition of a redrawn cell, if it is the same as for the transition
that it is made from. -/
theorem map_transitions_eq (drawn : image.draft = cell.draft.redrawn redraw)
    {mass imageMass : Transition ℚ → ℚ}
    (same : ∀ transition ∈ cell.transitions, ∀ imageTransition : Transition ℚ,
      imageTransition.draft = redraw transition.draft →
        imageMass imageTransition = mass transition) :
    image.transitions.map imageMass = cell.transitions.map mass := by
  have drafts : image.transitions.map Transition.draft =
      (cell.transitions.map Transition.draft).map redraw :=
    congrArg CellDraft.transitions drawn
  have lengths : image.transitions.length = cell.transitions.length := by
    simpa using congrArg List.length drafts
  refine List.ext_getElem (by simpa using lengths) fun place inside _ => ?_
  rw [List.length_map] at inside
  rw [List.getElem_map, List.getElem_map]
  refine same _ (List.getElem_mem _) _ ?_
  have here := congrArg (fun list => list[place]?) drafts
  simpa [List.getElem?_eq_getElem inside, List.getElem?_eq_getElem (lengths ▸ inside)] using here

/-- A mass that is the same for the transitions is the same on the average of the choices. -/
theorem sum_choices_eq (drawn : image.draft = cell.draft.redrawn redraw)
    {mass imageMass : Transition ℚ → ℚ}
    (same : ∀ transition ∈ cell.transitions, ∀ imageTransition : Transition ℚ,
      imageTransition.draft = redraw transition.draft →
        imageMass imageTransition = mass transition) :
    ∑ choice : Fin image.choices.length,
        (image.choices.get choice).2 * imageMass (image.choices.get choice).1 =
      ∑ choice : Fin cell.choices.length,
        (cell.choices.get choice).2 * mass (cell.choices.get choice).1 := by
  have asZip (other : Cell ℚ) (otherMass : Transition ℚ → ℚ) :
      other.choices.map (fun choice => choice.2 * otherMass choice.1) =
        List.zipWith (fun weight action => action * weight) (other.transitions.map otherMass)
          other.actions := by
    rw [List.zipWith_map_left, choices, List.map_zip_eq_zipWith]
    rfl
  have actions : image.actions = cell.actions :=
    congrArg ValueVector.normalized (congrArg CellDraft.weights drawn)
  rw [← ValueVector.total_map image.choices fun choice => choice.2 * imageMass choice.1,
    ← ValueVector.total_map cell.choices fun choice => choice.2 * mass choice.1, asZip, asZip,
    map_transitions_eq drawn same, actions]

end Cell

/-! ### Redrawn networks -/

/-- New numbers for the cells of a network and for the values of each cell, new transitions for
each cell, and a way to turn phrases. -/
structure Redrawing where
  number : Equiv.Perm Nat
  values : Nat → Equiv.Perm Nat
  transition : Nat → TransitionDraft ℚ → TransitionDraft ℚ
  turn : Phrase → Phrase

namespace Redrawing

variable (redrawing : Redrawing) (network image : Network ℚ)

/-- The turned sequence. -/
def turned (terminals : TerminalChart) : TerminalChart :=
  ⟨redrawing.turn terminals.symbols⟩

/-- The cells of the second draft are those of the first one, redrawn and under their new
numbers. -/
def Draws (draft image : NetworkDraft ℚ) : Prop :=
  ∀ index, image.cells[redrawing.number index]? =
    draft.cells[index]?.map (CellDraft.redrawn (redrawing.transition index))

/-- The second network is drawn after the first one. -/
structure Relates : Prop where
  configuration : image.configuration = network.configuration
  cells : redrawing.Draws network.draft image.draft
  root : ∀ index,
    image.rootProbability (redrawing.number index) = network.rootProbability index
  rootValue : ∀ index value,
    image.rootValueProbability (redrawing.number index) (redrawing.values index value) =
      network.rootValueProbability index value
  number_stays : StaysBelow network.cellCount redrawing.number
  values_stay : ∀ (index : Nat) (cell : Cell ℚ), network.cells[index]? = some cell →
    StaysBelow cell.cardinality (redrawing.values index)

/-- The two networks have the same entries for a phrase. -/
def Matches (phrase : Phrase) : Prop :=
  ∀ index value, image.insideEntry (redrawing.number index) (redrawing.turn phrase)
    (redrawing.values index value) = network.insideEntry index phrase value

/-- Every new transition contributes to a phrase as much as the one that it is made from. -/
def Contributes (phrase : Phrase) : Prop :=
  ∀ (index value : Nat) (cell : Cell ℚ), network.cells[index]? = some cell →
    value < cell.cardinality → ∀ transition ∈ cell.transitions, ∀ imageTransition : Transition ℚ,
      imageTransition.draft = redrawing.transition index transition.draft →
        image.contribution (redrawing.number index) (redrawing.turn phrase)
          (redrawing.values index value) imageTransition =
            network.contribution index phrase value transition

/-! ### What a redrawn network consists of -/

namespace Draws

variable {redrawing : Redrawing} {draft image : NetworkDraft ℚ}

/-- Each cell is drawn after some cell. -/
theorem exists_original (draws : redrawing.Draws draft image) {index : Nat}
    {imageCell : CellDraft ℚ} (found : image.cells[redrawing.number index]? = some imageCell) :
    ∃ cell, draft.cells[index]? = some cell ∧
      cell.redrawn (redrawing.transition index) = imageCell := by
  rw [draws, Option.map_eq_some_iff] at found
  exact found

/-- There are as many cells as before. -/
theorem length_cells (draws : redrawing.Draws draft image)
    (stays : StaysBelow draft.cells.length redrawing.number) :
    image.cells.length = draft.cells.length := by
  refine eq_of_forall_ge_iff fun place => ?_
  obtain ⟨index, rfl⟩ := redrawing.number.surjective place
  rw [← List.getElem?_eq_none_iff, draws, Option.map_eq_none_iff, List.getElem?_eq_none_iff,
    ← Nat.not_lt, ← Nat.not_lt, stays]

/-- The redrawn cell of a child has as many values as the child. -/
theorem hasChild (draws : redrawing.Draws draft image) {child axis : Nat}
    (fits : draft.HasChild child axis) : image.HasChild (redrawing.number child) axis := by
  obtain ⟨cell, found, rfl⟩ := fits
  exact ⟨cell.redrawn (redrawing.transition child), by rw [draws, found, Option.map_some], rfl⟩

/-- A redrawn network is sound if its prior is and fits it, and if the new transitions are sound
and fit the redrawn cells wherever the old ones fit the cells. -/
theorem sound (draws : redrawing.Draws draft image) (sound : draft.Sound)
    (transitions : ∀ (index : Nat) (transition : TransitionDraft ℚ), transition.Sound →
      (redrawing.transition index transition).Sound ∧
        (redrawing.transition index transition).parents = transition.parents)
    (fits : ∀ (index : Nat) (transition : TransitionDraft ℚ), draft.Fits index transition →
      image.Fits (redrawing.number index) (redrawing.transition index transition))
    (prior : image.prior.Sound) (length_prior : image.prior.values.length = image.cells.length)
    (length_values : ∀ (index : Nat) (weights : ValueVector ℚ),
      image.prior.values[redrawing.number index]? = some weights →
        ∃ original : ValueVector ℚ, draft.prior.values[index]? = some original ∧
          weights.length = original.length) : image.Sound where
  cells imageCell member := by
    obtain ⟨place, found⟩ := List.getElem?_of_mem member
    obtain ⟨index, rfl⟩ := redrawing.number.surjective place
    obtain ⟨cell, foundCell, rfl⟩ := draws.exists_original found
    exact (sound.cells cell (List.mem_of_getElem? foundCell)).redrawn (transitions index)
  prior := prior
  length_prior := length_prior
  length_values place imageCell weights found foundWeights := by
    obtain ⟨index, rfl⟩ := redrawing.number.surjective place
    obtain ⟨cell, foundCell, rfl⟩ := draws.exists_original found
    obtain ⟨original, foundOriginal, lengths⟩ := length_values index weights foundWeights
    rw [lengths]
    exact sound.length_values index cell original foundCell foundOriginal
  children place imageCell found := by
    obtain ⟨index, rfl⟩ := redrawing.number.surjective place
    obtain ⟨cell, foundCell, rfl⟩ := draws.exists_original found
    exact List.forall_mem_map.mpr fun transition member =>
      fits index transition (sound.children index cell foundCell transition member)

end Draws

namespace Relates

variable {redrawing : Redrawing} {network image : Network ℚ}

/-- Each cell has an image under its new number. -/
theorem exists_image (relates : redrawing.Relates network image) {index : Nat} {cell : Cell ℚ}
    (found : network.cells[index]? = some cell) :
    ∃ imageCell, image.cells[redrawing.number index]? = some imageCell ∧
      imageCell.draft = cell.draft.redrawn (redrawing.transition index) := by
  have here := relates.cells index
  simp only [Network.draft, List.getElem?_map, found, Option.map_some,
    Option.map_eq_some_iff] at here
  exact here

/-- Each cell is the image of some cell. -/
theorem exists_original (relates : redrawing.Relates network image) {index : Nat}
    {imageCell : Cell ℚ} (found : image.cells[redrawing.number index]? = some imageCell) :
    ∃ cell, network.cells[index]? = some cell ∧
      imageCell.draft = cell.draft.redrawn (redrawing.transition index) := by
  have foundDraft : image.draft.cells[redrawing.number index]? = some imageCell.draft := by
    rw [Network.draft, List.getElem?_map, found, Option.map_some]
  obtain ⟨draft, foundOriginal, drawn⟩ := relates.cells.exists_original foundDraft
  rw [Network.draft, List.getElem?_map, Option.map_eq_some_iff] at foundOriginal
  obtain ⟨cell, foundCell, rfl⟩ := foundOriginal
  exact ⟨cell, foundCell, drawn.symm⟩

theorem accepts_eq (relates : redrawing.Relates network image) (length : Nat) :
    image.accepts length = network.accepts length := by
  rw [Network.accepts, Network.accepts, relates.configuration]

theorem cellCount_eq (relates : redrawing.Relates network image) :
    image.cellCount = network.cellCount := by
  have counts := relates.cells.length_cells
  simp only [Network.draft, List.length_map] at counts
  exact counts relates.number_stays

/-- The chart of the redrawn network is as large, and its pass counts as much. -/
theorem fits (relates : redrawing.Relates network image) {length : Nat}
    (room : network.Fits length) : image.Fits length := by
  obtain ⟨memory, counts⟩ := (network.fits_iff length).mp room
  rw [Network.fits_iff, relates.cellCount_eq]
  refine ⟨fun imageCell member => ?_, counts⟩
  obtain ⟨place, found⟩ := List.getElem?_of_mem member
  obtain ⟨index, rfl⟩ := redrawing.number.surjective place
  obtain ⟨cell, foundCell, drawn⟩ := relates.exists_original found
  rw [Cell.cardinality_eq drawn]
  exact memory cell (List.mem_of_getElem? foundCell)

/-! ### What a redrawn network says -/

/-- If the transitions contribute the same whenever shorter phrases match, all phrases match. The
induction is on the length of the phrase, for all cells and values at once, because the cells may
refer to each other in any way. -/
theorem matches_all (relates : redrawing.Relates network image)
    (step : ∀ phrase : Phrase, (∀ part : Phrase, part.length < phrase.length →
      redrawing.Matches network image part) → redrawing.Contributes network image phrase)
    (phrase : Phrase) : redrawing.Matches network image phrase := by
  induction lengthIs : phrase.length using Nat.strong_induction_on generalizing phrase with
  | _ length inductionHypothesis =>
    subst lengthIs
    have contributes := step phrase fun part shorter =>
      inductionHypothesis part.length shorter part rfl
    intro index value
    by_cases inside : ∃ cell, network.cells[index]? = some cell ∧ value < cell.cardinality
    · obtain ⟨cell, found, valueLt⟩ := inside
      obtain ⟨imageCell, foundImage, drawn⟩ := relates.exists_image found
      have imageLt : redrawing.values index value < imageCell.cardinality := by
        rw [Cell.cardinality_eq drawn]
        exact (relates.values_stay index cell found value).mpr valueLt
      rw [Network.insideEntry_eq_sum found valueLt, Network.insideEntry_eq_sum foundImage imageLt]
      exact Cell.sum_choices_eq drawn (contributes index value cell found valueLt)
    · rw [Network.insideEntry_eq_zero phrase inside, Network.insideEntry_eq_zero]
      rintro ⟨imageCell, foundImage, imageLt⟩
      obtain ⟨cell, found, drawn⟩ := relates.exists_original foundImage
      rw [Cell.cardinality_eq drawn] at imageLt
      exact inside ⟨cell, found, (relates.values_stay index cell found value).mp imageLt⟩

/-- Where two networks match, the vectors are the same up to the numbers of the values. -/
theorem insideVector_eq (relates : redrawing.Relates network image) {phrase : Phrase}
    (same : redrawing.Matches network image phrase) {index : Nat} {cell : Cell ℚ}
    (found : network.cells[index]? = some cell) :
    image.insideVector (redrawing.number index) (redrawing.turn phrase) =
      rearranged (redrawing.values index) (network.insideVector index phrase) := by
  obtain ⟨imageCell, foundImage, drawn⟩ := relates.exists_image found
  have length := network.length_insideVector found phrase
  have stays := relates.values_stay index cell found
  rw [← length] at stays
  refine ValueVector.ext_getD ?_ fun place => ?_
  · rw [length_rearranged stays, length, image.length_insideVector foundImage,
      Cell.cardinality_eq drawn]
  · obtain ⟨value, rfl⟩ := (redrawing.values index).surjective place
    rw [ValueVector.getD_rearranged stays]
    exact same index value

/-- Where two networks match, they give the same probability. -/
theorem likelihood_eq (relates : redrawing.Relates network image) {phrase : Phrase}
    (same : redrawing.Matches network image phrase) :
    image.likelihood (redrawing.turn phrase) = network.likelihood phrase := by
  rw [Network.likelihood_eq_sum, Network.likelihood_eq_sum, relates.cellCount_eq,
    ← relates.number_stays.sum_range]
  refine Finset.sum_congr rfl fun index member => ?_
  have found := List.getElem?_eq_getElem (l := network.cells) (Finset.mem_range.mp member)
  obtain ⟨imageCell, foundImage, drawn⟩ := relates.exists_image found
  rw [relates.root, Network.cardinalityAt_eq foundImage, Network.cardinalityAt_eq found,
    Cell.cardinality_eq drawn, ← (relates.values_stay index _ found).sum_range]
  simp only [relates.rootValue, same index _]

/-- The passes over a sequence and over the turned sequence give the same probability, and leave
the inside vectors of the two networks. -/
theorem passes (relates : redrawing.Relates network image)
    (same : ∀ phrase, redrawing.Matches network image phrase)
    (length_turn : ∀ phrase : Phrase, (redrawing.turn phrase).length = phrase.length)
    {terminals : TerminalChart} (accepted : network.accepts terminals.length = true)
    (fits : network.Fits terminals.length) (before imageBefore : Workspace ℚ) :
    ∃ marginal after imageAfter,
      runOn (network.insideObserved terminals) before = (.ok marginal, after) ∧
      runOn (image.insideObserved (redrawing.turned terminals)) imageBefore =
        (.ok marginal, imageAfter) ∧
      (∀ index span, after.chart.get? index span =
        if index < network.cellCount ∧ span.Within terminals.length then
          some (network.insideVector index (terminals.phrase span))
        else
          none) ∧
      ∀ index span, imageAfter.chart.get? (redrawing.number index) span =
        if index < network.cellCount ∧ span.Within terminals.length then
          some (image.insideVector (redrawing.number index)
            ((redrawing.turned terminals).phrase span))
        else
          none := by
  have lengths : (redrawing.turned terminals).length = terminals.length :=
    length_turn terminals.symbols
  have imageAccepted : image.accepts (redrawing.turned terminals).length = true := by
    rw [lengths, relates.accepts_eq, accepted]
  have imageFits : image.Fits (redrawing.turned terminals).length :=
    lengths ▸ relates.fits fits
  obtain ⟨after, ran, reads⟩ := Network.runOn_insideObserved_reads accepted fits before
  obtain ⟨imageAfter, imageRan, imageReads⟩ :=
    Network.runOn_insideObserved_reads imageAccepted imageFits imageBefore
  refine ⟨_, after, imageAfter, ran, ?_, reads, fun index span => ?_⟩
  · rw [imageRan, lengths, turned, relates.likelihood_eq (same terminals.symbols)]
  · simp only [imageReads, lengths, relates.cellCount_eq, relates.number_stays index]

end Relates

end Redrawing

end RecursiveBayes
