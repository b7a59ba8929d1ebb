/-
This file bounds the probabilities of all sequences together. Over the rational
numbers the probabilities of finitely many sequences sum up to at most one,
however long the sequences are, and so do the entries of one value of a cell.
What is missing to one is the probability that no finite sequence is generated.

The bound is proved by induction on the length of the longest sequence. A binary
transition splits each sequence into two shorter ones, and different sequences or
different split points give different pairs. So the sum over all splits is at most
the product of the sums for the left and for the right parts.
-/

import RecursiveBayes.Proofs.Network.Recurrence
import RecursiveBayes.Proofs.Network.Total
import RecursiveBayes.Proofs.Trees

open RecursiveBayes.Action

namespace RecursiveBayes

/-! ### Parts of a set of phrases -/

namespace Phrase

/-- The parts of some phrases on one side, at all their split points. -/
def partsBy (side : Nat → Phrase → Phrase) (phrases : Finset Phrase) : Finset Phrase :=
  phrases.biUnion fun phrase => (Finset.Ico 1 phrase.length).image fun point => side point phrase

theorem length_of_mem_partsBy {side : Nat → Phrase → Phrase} {phrases : Finset Phrase}
    {bound : Nat} (shorter : ∀ phrase : Phrase, ∀ point ∈ Finset.Ico 1 phrase.length,
      (side point phrase).length < phrase.length)
    (short : ∀ phrase ∈ phrases, phrase.length < bound + 1) :
    ∀ part ∈ partsBy side phrases, part.length < bound := by
  intro part member
  obtain ⟨phrase, phraseMember, here⟩ := Finset.mem_biUnion.mp member
  obtain ⟨point, inside, rfl⟩ := Finset.mem_image.mp here
  exact lt_of_lt_of_le (shorter phrase point inside) (Nat.le_of_lt_succ (short phrase phraseMember))

/-- A sum over all splits of some phrases is at most the product of the sums over the left and the
right parts, since no two splits have the same parts. -/
theorem sum_splits_le (phrases : Finset Phrase) (left right : Phrase → ℚ)
    (leftNonneg : ∀ part, 0 ≤ left part) (rightNonneg : ∀ part, 0 ≤ right part) :
    ∑ phrase ∈ phrases, ∑ point ∈ Finset.Ico 1 phrase.length,
        left (phrase.take point) * right (phrase.drop point) ≤
      (∑ part ∈ partsBy List.take phrases, left part) *
        ∑ part ∈ partsBy List.drop phrases, right part := by
  -- A split is read off its parts: the phrase joins them, and the left one is as long as the
  -- point.
  have injective : Set.InjOn
      (fun split : (_ : Phrase) × Nat => (split.1.take split.2, split.1.drop split.2))
      (phrases.sigma fun phrase => Finset.Ico 1 phrase.length) := by
    rintro ⟨phrase, point⟩ inside ⟨other, otherPoint⟩ otherInside same
    obtain ⟨_, before⟩ := Finset.mem_Ico.mp (Finset.mem_sigma.mp inside).2
    obtain ⟨_, otherBefore⟩ := Finset.mem_Ico.mp (Finset.mem_sigma.mp otherInside).2
    obtain ⟨takes, drops⟩ := Prod.mk.inj same
    have whole : phrase = other := by
      rw [← List.take_append_drop point phrase, takes, drops, List.take_append_drop]
    have points := congrArg List.length takes
    rw [List.length_take, List.length_take, Nat.min_eq_left (Nat.le_of_lt before),
      Nat.min_eq_left (Nat.le_of_lt otherBefore)] at points
    subst whole points
    rfl
  rw [Finset.sum_mul_sum, ← Finset.sum_product', Finset.sum_sigma',
    ← Finset.sum_image (f := fun parts : Phrase × Phrase => left parts.1 * right parts.2) injective]
  refine Finset.sum_le_sum_of_subset_of_nonneg ?_ fun parts _ _ =>
    mul_nonneg (leftNonneg parts.1) (rightNonneg parts.2)
  intro parts member
  obtain ⟨⟨phrase, point⟩, inside, rfl⟩ := Finset.mem_image.mp member
  obtain ⟨phraseMember, pointMember⟩ := Finset.mem_sigma.mp inside
  exact Finset.mem_product.mpr
    ⟨Finset.mem_biUnion.mpr ⟨phrase, phraseMember, Finset.mem_image_of_mem _ pointMember⟩,
      Finset.mem_biUnion.mpr ⟨phrase, phraseMember, Finset.mem_image_of_mem _ pointMember⟩⟩

end Phrase

namespace Network

variable (network : Network ℚ)

/-! ### Entries are not negative -/

theorem contribution_nonneg {index value : Nat} {phrase : Phrase}
    (parts : ∀ child part other, part.length < phrase.length →
      0 ≤ network.insideEntry child part other) (transition : Transition ℚ) :
    0 ≤ network.contribution index phrase value transition := by
  cases transition with
  | terminal transition =>
    match phrase with
    | [] => exact le_refl 0
    | [observation] => exact transition.observed_nonneg observation value
    | first :: second :: rest => exact le_refl 0
  | binary transition =>
    refine Finset.sum_nonneg fun point inside => Finset.sum_nonneg fun leftValue _ =>
      Finset.sum_nonneg fun rightValue _ => ?_
    obtain ⟨shortLeft, shortRight⟩ := Trees.length_parts_lt inside
    exact mul_nonneg (transition.probability_nonneg _ _ _)
      (mul_nonneg (parts _ _ _ shortLeft) (parts _ _ _ shortRight))

theorem insideEntry_nonneg (index : Nat) (phrase : Phrase) (value : Nat) :
    0 ≤ network.insideEntry index phrase value := by
  induction lengthIs : phrase.length using Nat.strong_induction_on
    generalizing index phrase value with
  | _ length inductionHypothesis =>
    subst lengthIs
    by_cases inside : ∃ cell, network.cells[index]? = some cell ∧ value < cell.cardinality
    · obtain ⟨cell, found, valueLt⟩ := inside
      rw [insideEntry_eq_sum found valueLt]
      refine Finset.sum_nonneg fun choice _ =>
        mul_nonneg (cell.action_nonneg choice) ?_
      exact network.contribution_nonneg (fun child part other short =>
        inductionHypothesis _ short child part other rfl) _
    · exact le_of_eq (insideEntry_eq_zero phrase inside).symm

/-! ### Sums over phrases -/

/-- A terminal transition contributes to phrases of one observation only. -/
theorem sum_contribution_terminal_le_one (index value : Nat) (phrases : Finset Phrase)
    (transition : TerminalTransition ℚ) :
    ∑ phrase ∈ phrases, network.contribution index phrase value (.terminal transition) ≤ 1 := by
  have injective : Set.InjOn (fun observation : Option Nat => ([observation] : Phrase))
      (Set.preimage (fun observation => [observation]) ↑phrases) :=
    fun _ _ _ _ same => List.head_eq_of_cons_eq same
  have others : ∀ phrase ∈ phrases,
      phrase ∉ Set.range (fun observation : Option Nat => ([observation] : Phrase)) →
        network.contribution index phrase value (.terminal transition) = 0 := by
    intro phrase _ outside
    match phrase with
    | [] => rfl
    | [observation] => exact absurd ⟨observation, rfl⟩ outside
    | first :: second :: rest => rfl
  rw [← Finset.sum_preimage _ phrases injective _ others]
  exact transition.sum_observed_le_one _ value

/-- The sums over the splits of some phrases and over pairs of values are exchanged. -/
theorem sum_values_of_splits (phrases : Finset Phrase) (leftCount rightCount : Nat)
    (term : Phrase → Nat → Nat → Nat → ℚ) :
    ∑ phrase ∈ phrases, ∑ point ∈ Finset.Ico 1 phrase.length,
        ∑ leftValue ∈ Finset.range leftCount, ∑ rightValue ∈ Finset.range rightCount,
          term phrase point leftValue rightValue =
      ∑ leftValue ∈ Finset.range leftCount, ∑ rightValue ∈ Finset.range rightCount,
        ∑ phrase ∈ phrases, ∑ point ∈ Finset.Ico 1 phrase.length,
          term phrase point leftValue rightValue := by
  have ofPhrase (phrase : Phrase) :
      ∑ point ∈ Finset.Ico 1 phrase.length, ∑ leftValue ∈ Finset.range leftCount,
          ∑ rightValue ∈ Finset.range rightCount, term phrase point leftValue rightValue =
        ∑ leftValue ∈ Finset.range leftCount, ∑ rightValue ∈ Finset.range rightCount,
          ∑ point ∈ Finset.Ico 1 phrase.length, term phrase point leftValue rightValue := by
    rw [Finset.sum_comm]
    exact Finset.sum_congr rfl fun leftValue _ => Finset.sum_comm
  rw [Finset.sum_congr rfl fun phrase _ => ofPhrase phrase, Finset.sum_comm]
  exact Finset.sum_congr rfl fun leftValue _ => Finset.sum_comm

/-- A binary transition contributes at most one to some phrases, if the entries for their parts
sum up to at most one. -/
theorem sum_contribution_binary_le_one (index value : Nat) {phrases : Finset Phrase}
    (transition : BinaryTransition ℚ)
    (left : ∀ leftValue, ∑ part ∈ Phrase.partsBy List.take phrases,
      network.insideEntry (transition.leftIndex index) part leftValue ≤ 1)
    (right : ∀ rightValue, ∑ part ∈ Phrase.partsBy List.drop phrases,
      network.insideEntry (transition.rightIndex index) part rightValue ≤ 1) :
    ∑ phrase ∈ phrases, network.contribution index phrase value (.binary transition) ≤ 1 := by
  have splits (leftValue rightValue : Nat) :
      ∑ phrase ∈ phrases, ∑ point ∈ Finset.Ico 1 phrase.length,
        network.insideEntry (transition.leftIndex index) (phrase.take point) leftValue *
          network.insideEntry (transition.rightIndex index) (phrase.drop point) rightValue ≤ 1 := by
    refine le_trans (Phrase.sum_splits_le phrases
      (fun part => network.insideEntry (transition.leftIndex index) part leftValue)
      (fun part => network.insideEntry (transition.rightIndex index) part rightValue)
      (fun part => network.insideEntry_nonneg _ part leftValue)
      (fun part => network.insideEntry_nonneg _ part rightValue)) ?_
    have rightNonneg : 0 ≤ ∑ part ∈ Phrase.partsBy List.drop phrases,
        network.insideEntry (transition.rightIndex index) part rightValue :=
      Finset.sum_nonneg fun part _ => network.insideEntry_nonneg _ part rightValue
    exact mul_le_one₀ (left leftValue) rightNonneg (right rightValue)
  simp only [contribution]
  rw [sum_values_of_splits]
  refine le_trans (Finset.sum_le_sum fun leftValue _ => Finset.sum_le_sum fun rightValue _ => ?_)
    (transition.sum_probability_le_one value)
  simp only [← Finset.mul_sum]
  exact mul_le_of_le_one_right (transition.probability_nonneg _ _ _) (splits leftValue rightValue)

/-- The entries of one value of a cell for any number of phrases sum up to at most one. -/
theorem sum_insideEntry_le_one (index : Nat) (phrases : Finset Phrase) (value : Nat) :
    ∑ phrase ∈ phrases, network.insideEntry index phrase value ≤ 1 := by
  obtain ⟨bound, short⟩ : ∃ bound, ∀ phrase ∈ phrases, phrase.length < bound :=
    ⟨phrases.sup List.length + 1, fun phrase member =>
      Nat.lt_succ_of_le (Finset.le_sup (f := List.length) member)⟩
  -- By induction on the bound, for all cells and all sets of shorter phrases at once.
  induction bound generalizing index phrases value with
  | zero =>
    rw [Finset.eq_empty_of_forall_notMem fun phrase member =>
      Nat.not_lt_zero _ (short phrase member)]
    exact zero_le_one
  | succ bound inductionHypothesis =>
    by_cases inside : ∃ cell, network.cells[index]? = some cell ∧ value < cell.cardinality
    · obtain ⟨cell, found, valueLt⟩ := inside
      have contributions (transition : Transition ℚ) :
          ∑ phrase ∈ phrases, network.contribution index phrase value transition ≤ 1 := by
        cases transition with
        | terminal transition =>
          exact network.sum_contribution_terminal_le_one index value phrases transition
        | binary transition =>
          refine network.sum_contribution_binary_le_one index value transition
            (fun leftValue => inductionHypothesis _ _ leftValue ?_)
            (fun rightValue => inductionHypothesis _ _ rightValue ?_)
          · exact Phrase.length_of_mem_partsBy
              (fun phrase point inside => (Trees.length_parts_lt inside).1) short
          · exact Phrase.length_of_mem_partsBy
              (fun phrase point inside => (Trees.length_parts_lt inside).2) short
      have exchanged : ∑ phrase ∈ phrases, network.insideEntry index phrase value =
          ∑ choice : Fin cell.choices.length, (cell.choices.get choice).2 *
            ∑ phrase ∈ phrases,
              network.contribution index phrase value (cell.choices.get choice).1 := by
        simp only [insideEntry_eq_sum found valueLt, Finset.mul_sum]
        exact Finset.sum_comm
      rw [exchanged]
      exact cell.sum_choices_le_one (fun transition => ∑ phrase ∈ phrases,
        network.contribution index phrase value transition) contributions
    · have zero (phrase : Phrase) : network.insideEntry index phrase value = 0 :=
        insideEntry_eq_zero phrase inside
      simp only [zero, Finset.sum_const_zero]
      exact zero_le_one

theorem insideEntry_le_one (index : Nat) (phrase : Phrase) (value : Nat) :
    network.insideEntry index phrase value ≤ 1 := by
  have bound := network.sum_insideEntry_le_one index {phrase} value
  rwa [Finset.sum_singleton] at bound

/-! ### Roots -/

theorem rootProbability_nonneg (index : Nat) : 0 ≤ network.rootProbability index :=
  ValueVector.getD_normalized_nonneg network.prior.structuralWeights_valid index

theorem sum_rootProbability_le_one :
    ∑ index ∈ Finset.range network.cellCount, network.rootProbability index ≤ 1 := by
  rw [← network.cellCount_prior, ← network.prior.length_structural, Prior.structural,
    ValueVector.length_normalized]
  exact ValueVector.sum_normalized_le_one network.prior.structuralWeights

theorem rootValueProbability_nonneg (index value : Nat) :
    0 ≤ network.rootValueProbability index value := by
  rw [rootValueProbability_eq]
  exact ValueVector.getD_normalized_nonneg (network.valueWeights_valid index) value

theorem sum_rootValueProbability_le_one {index : Nat} {cell : Cell ℚ}
    (found : network.cells[index]? = some cell) :
    ∑ value ∈ Finset.range (network.cardinalityAt index),
      network.rootValueProbability index value ≤ 1 := by
  obtain ⟨weights, foundWeights, lengths, _⟩ := network.sound_cell found
  have here : network.prior.valueWeights.getD index [] = weights := by
    rw [List.getD_eq_getElem?_getD, foundWeights, Option.getD_some]
  simp only [rootValueProbability_eq, here]
  rw [cardinalityAt_eq found, ← lengths]
  exact ValueVector.sum_normalized_le_one weights

/-! ### Probabilities of sequences -/

theorem likelihood_nonneg (phrase : Phrase) : 0 ≤ network.likelihood phrase := by
  rw [likelihood_eq_sum]
  exact Finset.sum_nonneg fun index _ => mul_nonneg (network.rootProbability_nonneg index)
    (Finset.sum_nonneg fun value _ => mul_nonneg (network.rootValueProbability_nonneg index value)
      (network.insideEntry_nonneg index phrase value))

theorem sum_likelihood_le_one (phrases : Finset Phrase) :
    ∑ phrase ∈ phrases, network.likelihood phrase ≤ 1 := by
  have exchanged : ∑ phrase ∈ phrases, network.likelihood phrase =
      ∑ index ∈ Finset.range network.cellCount, network.rootProbability index *
        ∑ value ∈ Finset.range (network.cardinalityAt index),
          network.rootValueProbability index value *
            ∑ phrase ∈ phrases, network.insideEntry index phrase value := by
    simp only [likelihood_eq_sum]
    rw [Finset.sum_comm]
    refine Finset.sum_congr rfl fun index _ => ?_
    rw [← Finset.mul_sum, Finset.sum_comm]
    simp only [Finset.mul_sum]
  rw [exchanged]
  refine le_trans (Finset.sum_le_sum fun index member => ?_) network.sum_rootProbability_le_one
  refine mul_le_of_le_one_right (network.rootProbability_nonneg index) ?_
  have found := List.getElem?_eq_getElem (l := network.cells) (Finset.mem_range.mp member)
  refine le_trans (Finset.sum_le_sum fun value _ => ?_)
    (network.sum_rootValueProbability_le_one found)
  exact mul_le_of_le_one_right (network.rootValueProbability_nonneg index value)
    (network.sum_insideEntry_le_one index phrases value)

theorem likelihood_le_one (phrase : Phrase) : network.likelihood phrase ≤ 1 := by
  have bound := network.sum_likelihood_le_one {phrase}
  rwa [Finset.sum_singleton] at bound

/-- What a pass returns for a sequence is not negative, and at most its probability. -/
theorem returned_le_likelihood {network : Network ℚ} {sequence : Phrase} {marginal : ℚ}
    {before after : Workspace ℚ}
    (returned : runOn (network.insideObserved ⟨sequence⟩) before = (.ok marginal, after)) :
    0 ≤ marginal ∧ marginal ≤ network.likelihood sequence := by
  have nonneg := network.likelihood_nonneg sequence
  obtain ⟨_, rfl⟩ := agrees_of_insideObserved returned
  split
  · exact ⟨le_refl 0, nonneg⟩
  · exact ⟨nonneg, le_refl _⟩

/-- An entry for the whole of a sequence is at most the inside entry; for the empty sequence there
is none in the chart. -/
theorem rootEntry_le_insideEntry {network : Network ℚ} {sequence : Phrase} {chart : InsideChart ℚ}
    (agrees : network.Agrees ⟨sequence⟩ chart) (index value : Nat) :
    (chart.vectorAt index ⟨0, sequence.length⟩).getD value 0 ≤
      network.insideEntry index sequence value := by
  rw [InsideChart.vectorAt]
  cases found : chart.get? index ⟨0, sequence.length⟩ with
  | none => exact network.insideEntry_nonneg index sequence value
  | some vector =>
    have whole := TerminalChart.phrase_whole ⟨sequence⟩
    rw [agrees.entries index _ vector found, insideEntry]
    exact le_of_eq (congrArg (fun phrase => (network.insideVector index phrase).getD value 0) whole)

/-- The pass gives a sub-probability over sequences: what it returns for finitely many different
sequences is not negative and sums up to at most one, from whatever workspaces it starts. So
do the entries of each value of a cell for the whole sequences, and every entry of a chart
is a probability. -/
theorem insideObserved_subprobability (network : Network ℚ) (sequences : Finset Phrase)
    (before after : Phrase → Workspace ℚ) (marginal : Phrase → ℚ)
    (returned : ∀ sequence ∈ sequences,
      runOn (network.insideObserved ⟨sequence⟩) (before sequence) =
        (.ok (marginal sequence), after sequence)) :
    (∀ sequence ∈ sequences, 0 ≤ marginal sequence ∧ marginal sequence ≤ 1) ∧
    ∑ sequence ∈ sequences, marginal sequence ≤ 1 ∧
    (∀ index value, ∑ sequence ∈ sequences,
      ((after sequence).chart.vectorAt index ⟨0, sequence.length⟩).getD value 0 ≤ 1) ∧
    ∀ sequence ∈ sequences, ∀ index span vector,
      (after sequence).chart.get? index span = some vector →
        ∀ entry ∈ vector, 0 ≤ entry ∧ entry ≤ 1 := by
  refine ⟨?_, ?_, ?_, ?_⟩
  · intro sequence member
    obtain ⟨nonneg, bound⟩ := returned_le_likelihood (returned sequence member)
    exact ⟨nonneg, le_trans bound (network.likelihood_le_one sequence)⟩
  · exact le_trans (Finset.sum_le_sum fun sequence member =>
      (returned_le_likelihood (returned sequence member)).2)
      (network.sum_likelihood_le_one sequences)
  · intro index value
    refine le_trans (Finset.sum_le_sum fun sequence member => ?_)
      (network.sum_insideEntry_le_one index sequences value)
    exact rootEntry_le_insideEntry (agrees_of_insideObserved (returned sequence member)).1
      index value
  · intro sequence member index span vector found entry entryMember
    obtain ⟨agrees, _⟩ := agrees_of_insideObserved (returned sequence member)
    obtain ⟨value, entryIs⟩ := List.getElem?_of_mem entryMember
    have same : entry = network.insideEntry index (TerminalChart.phrase ⟨sequence⟩ span) value := by
      rw [insideEntry, ← agrees.entries index span vector found, List.getD_eq_getElem?_getD,
        entryIs, Option.getD_some]
    rw [same]
    exact ⟨network.insideEntry_nonneg _ _ _, network.insideEntry_le_one _ _ _⟩

/-- Three sequences of the small network together have at most the probability one. -/
theorem specimen_subprobability :
    ∃ marginal : Phrase → ℚ,
      (∀ sequence ∈ ({[some 0], [some 0, some 1], [none]} : Finset Phrase),
        (runOn (specimen.insideObserved ⟨sequence⟩) .initial).1 = .ok (marginal sequence)) ∧
      ∑ sequence ∈ ({[some 0], [some 0, some 1], [none]} : Finset Phrase),
        marginal sequence ≤ 1 := by
  have runs (sequence : Phrase)
      (member : sequence ∈ ({[some 0], [some 0, some 1], [none]} : Finset Phrase)) :
      runOn (specimen.insideObserved ⟨sequence⟩) .initial =
        (.ok (specimen.likelihood sequence),
          (runOn (specimen.insideObserved ⟨sequence⟩) .initial).2) := by
    have accepted : specimen.accepts (TerminalChart.length ⟨sequence⟩) = true ∧
        (TerminalChart.length ⟨sequence⟩ ≠ 0 ∧ TerminalChart.length ⟨sequence⟩ ≤ 4) := by
      simp only [Finset.mem_insert, Finset.mem_singleton] at member
      rcases member with rfl | rfl | rfl <;> decide
    obtain ⟨after, ran, _⟩ :=
      runOn_insideObserved accepted.1 (fits_specimen accepted.2.2) accepted.2.1
    rw [ran .initial]
  obtain ⟨_, bound, _⟩ := insideObserved_subprobability specimen
    {[some 0], [some 0, some 1], [none]} (fun _ => .initial) _ specimen.likelihood runs
  exact ⟨specimen.likelihood, fun sequence member => congrArg Prod.fst (runs sequence member),
    bound⟩

end Network

end RecursiveBayes
