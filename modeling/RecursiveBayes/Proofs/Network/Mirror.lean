/-
This file mirrors networks. A mirrored network has the left and the right axis of every
binary transition exchanged, together with the children that they stand for. It
explains a sequence from right to left as the network itself explains it from left to
right.

The pass does not treat the two sides alike: it reads the left part first, and passes
over right values only. The passes over a sequence and over its reversal also reach
the parts of a span in opposite orders. None of this shows in the entries, which sum
over all split points and over all pairs of values.
-/

import RecursiveBayes.Proofs.Network.Redrawing

open RecursiveBayes.Action

namespace RecursiveBayes

/-! ### Mirrored drafts -/

/-- The table with the left and the right axis exchanged. -/
def Tensor.transposed (weights : Tensor ℚ 2) : Tensor ℚ 2 :=
  ofPairs weights.rightAxis weights.leftAxis weights.parents fun right left parent =>
    weights.pairEntry left right parent

theorem Tensor.pairEntry_transposed (weights : Tensor ℚ 2) {left right parent : Nat}
    (leftLt : left < weights.leftAxis) (rightLt : right < weights.rightAxis)
    (parentLt : parent < weights.parents) :
    weights.transposed.pairEntry right left parent = weights.pairEntry left right parent :=
  pairEntry_ofPairs _ rightLt leftLt parentLt

/-- A transition of the cell `owner` with the left and the right side exchanged. -/
def TransitionDraft.mirrored (owner : Nat) : TransitionDraft ℚ → TransitionDraft ℚ
  | terminal weights => .terminal weights
  | binary weights children =>
    .binary weights.transposed
      (some ((children.map Prod.snd).getD owner, (children.map Prod.fst).getD owner))

/-- The network with the two sides of all binary transitions exchanged. -/
def NetworkDraft.mirrored (draft : NetworkDraft ℚ) : NetworkDraft ℚ :=
  { draft with
    cells := draft.cells.mapIdx fun owner cell => cell.redrawn (TransitionDraft.mirrored owner) }

theorem Tensor.Sound.transposed {weights : Tensor ℚ 2} (sound : weights.Sound) :
    weights.transposed.Sound := by
  obtain ⟨leftPos, rightPos, parentsPos⟩ := sound.axes_pos
  exact sound_ofPairs rightPos leftPos parentsPos fun _ _ _ =>
    decide_eq_true (entry_nonneg sound.valid _ _)

theorem TransitionDraft.Sound.mirrored {transition : TransitionDraft ℚ} (sound : transition.Sound)
    (owner : Nat) : (transition.mirrored owner).Sound ∧
      (transition.mirrored owner).parents = transition.parents := by
  cases transition with
  | terminal weights => exact ⟨sound, rfl⟩
  | binary weights children => exact ⟨Tensor.Sound.transposed sound, rfl⟩

/-- New transitions for the cells as they are, for phrases that are read from right to left. -/
def Redrawing.mirroring : Redrawing where
  number := Equiv.refl Nat
  values _ := Equiv.refl Nat
  transition := TransitionDraft.mirrored
  turn := List.reverse

theorem NetworkDraft.draws_mirrored (draft : NetworkDraft ℚ) :
    Redrawing.mirroring.Draws draft draft.mirrored :=
  fun _ => List.getElem?_mapIdx

/-- The mirror image of a sound draft is sound. -/
theorem NetworkDraft.Sound.mirrored {draft : NetworkDraft ℚ} (sound : draft.Sound) :
    draft.mirrored.Sound := by
  have draws := draft.draws_mirrored
  refine draws.sound sound (fun index transition transitionSound => transitionSound.mirrored index)
    (fun index transition fits => ?_) sound.prior
    (sound.length_prior.trans List.length_mapIdx.symm) fun _ weights found => ⟨weights, found, rfl⟩
  cases transition with
  | terminal weights => trivial
  | binary weights children => exact ⟨draws.hasChild fits.2, draws.hasChild fits.1⟩

/-! ### Contributions -/

namespace BinaryTransition

variable {transition image : BinaryTransition ℚ}

theorem axes_of_transposed (drawn : image.table.weights = transition.table.weights.transposed) :
    image.leftCardinality = transition.rightCardinality ∧
      image.rightCardinality = transition.leftCardinality := by
  constructor
  · rw [leftCardinality, ConditionalTable.outcomes, drawn]
    rfl
  · rw [rightCardinality, ConditionalTable.outcomes, drawn]
    rfl

/-- The children have changed sides. -/
theorem children_of_mirrored {owner : Nat}
    (named : image.children = some (transition.rightIndex owner, transition.leftIndex owner)) :
    image.leftIndex owner = transition.rightIndex owner ∧
      image.rightIndex owner = transition.leftIndex owner := by
  constructor
  · rw [leftIndex, named]
    rfl
  · rw [rightIndex, named]
    rfl

/-- The mirror image of a pair has the probability of the pair. -/
theorem probability_transposed (drawn : image.table.weights = transition.table.weights.transposed)
    {left right value : Nat} (leftLt : left < transition.leftCardinality)
    (rightLt : right < transition.rightCardinality)
    (valueLt : value < transition.parentCardinality) :
    image.probability right left value = transition.probability left right value := by
  have weight {left right : Nat} (leftLt : left < transition.leftCardinality)
      (rightLt : right < transition.rightCardinality) :
      image.table.weights.pairEntry right left value =
        transition.table.weights.pairEntry left right value := by
    rw [drawn]
    exact transition.table.weights.pairEntry_transposed leftLt rightLt valueLt
  obtain ⟨leftAxis, rightAxis⟩ := axes_of_transposed drawn
  rw [probability_eq_share, probability_eq_share, weight leftLt rightLt, leftAxis, rightAxis,
    Finset.sum_comm]
  congr 1
  refine Finset.sum_congr rfl fun other member => Finset.sum_congr rfl fun another inside => ?_
  exact weight (Finset.mem_range.mp member) (Finset.mem_range.mp inside)

end BinaryTransition

namespace Network

variable {network image : Network ℚ}

/-- A single observation is its own reversal. -/
theorem contribution_terminal_reverse (network image : Network ℚ) (index : Nat) (phrase : Phrase)
    (value : Nat) (transition : TerminalTransition ℚ) :
    image.contribution index phrase.reverse value (.terminal transition) =
      network.contribution index phrase value (.terminal transition) := by
  match phrase with
  | [] => rfl
  | [observation] => rfl
  | first :: second :: rest =>
    rw [List.reverse_cons, List.reverse_cons, List.append_assoc]
    cases rest.reverse with
    | nil => rfl
    | cons last others => cases others <;> rfl

/-- A sum over the split points of a phrase, from the last one to the first one. -/
theorem sum_splits_reflected (length : Nat) (addend : Nat → ℚ) :
    ∑ point ∈ Finset.Ico 1 length, addend (length - point) =
      ∑ point ∈ Finset.Ico 1 length, addend point := by
  have reflected := Finset.sum_Ico_reflect addend 1 (Nat.le_succ length)
  rwa [Nat.add_sub_cancel_left, Nat.add_sub_cancel] at reflected

/-- A binary transition explains the reversed phrase at the reflected split points. -/
theorem contribution_binary_reverse {transition imageTransition : BinaryTransition ℚ}
    {index value : Nat} {phrase : Phrase}
    (drawn : (Transition.binary imageTransition).draft =
      (Transition.binary transition).draft.mirrored index)
    (valueLt : value < transition.parentCardinality)
    (shorter : ∀ part : Phrase, part.length < phrase.length →
      Redrawing.mirroring.Matches network image part) :
    image.contribution index phrase.reverse value (.binary imageTransition) =
      network.contribution index phrase value (.binary transition) := by
  obtain ⟨table, named⟩ := TransitionDraft.binary.inj drawn
  obtain ⟨leftAxis, rightAxis⟩ := BinaryTransition.axes_of_transposed table
  obtain ⟨leftIndex, rightIndex⟩ := BinaryTransition.children_of_mirrored named
  rw [contribution, contribution, List.length_reverse]
  -- The reversed phrase at `point` falls into the reversed parts at the reflected split point.
  refine Eq.trans (Finset.sum_congr rfl fun point member => ?_) (sum_splits_reflected _ _)
  obtain ⟨after, before⟩ := Finset.mem_Ico.mp member
  have reflectedMember : phrase.length - point ∈ Finset.Ico 1 phrase.length := by
    rw [Finset.mem_Ico]
    omega
  obtain ⟨leftShorter, rightShorter⟩ := Trees.length_parts_lt reflectedMember
  rw [leftAxis, rightAxis, leftIndex, rightIndex, List.take_reverse, List.drop_reverse,
    Finset.sum_comm]
  refine Finset.sum_congr rfl fun leftValue leftMember =>
    Finset.sum_congr rfl fun rightValue rightMember => ?_
  have left : image.insideEntry (transition.leftIndex index)
      (phrase.take (phrase.length - point)).reverse leftValue =
        network.insideEntry (transition.leftIndex index) (phrase.take (phrase.length - point))
          leftValue := shorter _ leftShorter _ _
  have right : image.insideEntry (transition.rightIndex index)
      (phrase.drop (phrase.length - point)).reverse rightValue =
        network.insideEntry (transition.rightIndex index) (phrase.drop (phrase.length - point))
          rightValue := shorter _ rightShorter _ _
  rw [left, right, BinaryTransition.probability_transposed table (Finset.mem_range.mp leftMember)
    (Finset.mem_range.mp rightMember) valueLt]
  ring

/-- The network and its mirror image are related by reading from right to left. -/
theorem relates_mirrored (drawn : image.draft = network.draft.mirrored) :
    Redrawing.mirroring.Relates network image where
  configuration := congrArg NetworkDraft.configuration drawn
  cells index := by
    rw [drawn]
    exact network.draft.draws_mirrored index
  root index := by
    have weights : image.prior.structuralWeights = network.prior.structuralWeights :=
      congrArg (fun draft => draft.prior.structural) drawn
    rw [rootProbability, rootProbability, Prior.structural, Prior.structural, weights]
    rfl
  rootValue index value := by
    have weights : image.prior.valueWeights = network.prior.valueWeights :=
      congrArg (fun draft => draft.prior.values) drawn
    rw [rootValueProbability_eq, rootValueProbability_eq, weights]
    rfl
  number_stays _ := Iff.rfl
  values_stay _ _ _ _ := Iff.rfl

theorem contributes_mirrored (phrase : Phrase)
    (shorter : ∀ part : Phrase, part.length < phrase.length →
      Redrawing.mirroring.Matches network image part) :
    Redrawing.mirroring.Contributes network image phrase := by
  intro index value cell found valueLt transition member imageTransition drawn
  cases transition with
  | terminal terminal =>
    have same : imageTransition.draft = (Transition.terminal terminal).draft := drawn
    cases Transition.draft_injective same
    exact contribution_terminal_reverse network image index phrase value terminal
  | binary binary =>
    have parents : binary.parentCardinality = cell.cardinality := cell.parents_eq _ member
    cases imageTransition with
    | terminal terminal => cases drawn
    | binary imageBinary =>
      exact contribution_binary_reverse drawn (parents ▸ valueLt) shorter

/-! ### Reversed sequences -/

/-- The observations in a span of the reversed sequence are those of the mirrored span. -/
theorem phrase_turned (terminals : TerminalChart) {start stop : Nat} (proper : start < stop)
    (inside : stop ≤ terminals.length) :
    (Redrawing.mirroring.turned terminals).phrase ⟨start, stop⟩ =
      Redrawing.mirroring.turn
        (terminals.phrase ⟨terminals.length - stop, terminals.length - start⟩) := by
  have lengths : terminals.symbols.length = terminals.length := rfl
  show (terminals.symbols.reverse.drop start).take (stop - start) =
    ((terminals.symbols.drop (terminals.length - stop)).take
      (terminals.length - start - (terminals.length - stop))).reverse
  rw [List.drop_reverse, List.take_reverse, List.drop_take, List.length_take, lengths,
    Nat.min_eq_left (Nat.sub_le _ _)]
  congr 3 <;> omega

/-- Mirror symmetry: the mirror image of a network is accepted. For every accepted sequence, its
pass over the reversed sequence gives the same probability as the pass of the network, and leaves
for every span the vectors of the mirrored span. -/
theorem mirrored_pass_reads_backwards (network : Network ℚ) :
    ∃ image, network.draft.mirrored.build = .ok image ∧
      ∀ terminals : TerminalChart, network.accepts terminals.length = true →
        network.Fits terminals.length → ∀ before imageBefore : Workspace ℚ,
          ∃ marginal after imageAfter,
            runOn (network.insideObserved terminals) before = (.ok marginal, after) ∧
            runOn (image.insideObserved ⟨terminals.symbols.reverse⟩) imageBefore =
              (.ok marginal, imageAfter) ∧
            ∀ index start stop, index < network.cellCount → start < stop →
              stop ≤ terminals.length → ∃ vector,
                imageAfter.chart.get? index ⟨start, stop⟩ = some vector ∧
                after.chart.get? index
                  ⟨terminals.length - stop, terminals.length - start⟩ = some vector := by
  obtain ⟨image, built⟩ := NetworkDraft.exists_build_iff.mpr network.sound_draft.mirrored
  refine ⟨image, built, fun terminals accepted fits before imageBefore => ?_⟩
  have relates := relates_mirrored (NetworkDraft.build_eq_ok_iff.mp built)
  have same := relates.matches_all contributes_mirrored
  obtain ⟨marginal, after, imageAfter, ran, imageRan, reads, imageReads⟩ :=
    relates.passes same (fun _ => List.length_reverse) accepted fits before imageBefore
  refine ⟨marginal, after, imageAfter, ran, imageRan, ?_⟩
  intro index start stop indexLt proper inside
  have within : Span.Within ⟨start, stop⟩ terminals.length := ⟨proper, inside⟩
  have mirroredWithin :
      Span.Within ⟨terminals.length - stop, terminals.length - start⟩ terminals.length :=
    ⟨Nat.sub_lt_sub_left (Nat.lt_of_lt_of_le proper inside) proper, Nat.sub_le _ _⟩
  have found := List.getElem?_eq_getElem (l := network.cells) indexLt
  refine ⟨_, ?_, (reads index _).trans (if_pos ⟨indexLt, mirroredWithin⟩)⟩
  refine ((imageReads index _).trans (if_pos ⟨indexLt, within⟩)).trans (congrArg some ?_)
  rw [phrase_turned terminals proper inside]
  exact (relates.insideVector_eq (same _) found).trans (rearranged_refl _)

/-- In the small network, the first two of three reversed symbols have the vectors that the last
two symbols have in their original order. -/
theorem specimen_mirrored_reads_backwards :
    specimen.Fits 3 ∧ ∃ image vector,
      specimen.draft.mirrored.build = .ok image ∧
      (runOn (image.insideObserved ⟨[some 1, none, some 0]⟩) .initial).2.chart.get? 0 ⟨0, 2⟩ =
        some vector ∧
      (runOn (specimen.insideObserved ⟨[some 0, none, some 1]⟩) .initial).2.chart.get? 0 ⟨1, 3⟩ =
        some vector := by
  have fits : specimen.Fits 3 := fits_specimen (by decide)
  obtain ⟨image, built, mirrors⟩ := mirrored_pass_reads_backwards specimen
  obtain ⟨marginal, after, imageAfter, ran, imageRan, reads⟩ :=
    mirrors ⟨[some 0, none, some 1]⟩ (by decide) fits .initial .initial
  obtain ⟨vector, imageRead, read⟩ :=
    reads 0 0 2 (by decide) (by decide) (by decide)
  refine ⟨fits, image, vector, built, ?_, ?_⟩
  · exact (congrArg (fun outcome => outcome.2.chart.get? 0 ⟨0, 2⟩) imageRan).trans imageRead
  · exact (congrArg (fun outcome => outcome.2.chart.get? 0 ⟨1, 3⟩) ran).trans read

end Network

end RecursiveBayes
