/-
This file says what a zero in the result of a pass means. Over the rational numbers
an entry of the chart is zero exactly if the observations of the span cannot be
derived from the value at all, using only transitions, symbols and pairs of values
that were given a positive weight.

Both directions go through the sum over derivation trees. Normalizing neither makes a
positive weight vanish nor gives a probability to what has no weight, so a tree weighs
something exactly if all its weights are positive as they were given. Since no tree has
a negative weight, nothing cancels in the sum.
-/

import RecursiveBayes.Proofs.Network.Derivation
import RecursiveBayes.Proofs.Network.SubProbability

open RecursiveBayes.Action

namespace RecursiveBayes

namespace Network

/-! ### Trees of positive weights -/

/-- A tree that can be derived from a value of a cell: each transition that it chooses, each symbol
that it emits and each pair of values that it splits into was given a positive weight, in the
action weights of the cell and in the tables of the transitions before they were normalized. -/
inductive Permits (network : Network ℚ) : Nat → Nat → Derivation → Prop
  | leaf {index value choice symbol : Nat} {cell : Cell ℚ} {transition : TerminalTransition ℚ}
      (found : network.cells[index]? = some cell) (valueLt : value < cell.cardinality)
      (chosen : cell.transitions[choice]? = some (.terminal transition))
      (actionPositive : 0 < cell.weights.getD choice 0)
      (known : symbol < transition.terminalCardinality)
      (symbolPositive : 0 < transition.table.weights.entry symbol value) :
    network.Permits index value (.leaf choice (some symbol))
  | node {index value choice leftValue rightValue : Nat} {cell : Cell ℚ}
      {transition : BinaryTransition ℚ} {left right : Derivation}
      (found : network.cells[index]? = some cell) (valueLt : value < cell.cardinality)
      (chosen : cell.transitions[choice]? = some (.binary transition))
      (actionPositive : 0 < cell.weights.getD choice 0)
      (pairPositive : 0 < transition.table.weights.entry
        (leftValue * transition.rightCardinality + rightValue) value)
      (leftPermits : network.Permits (transition.leftIndex index) leftValue left)
      (rightPermits : network.Permits (transition.rightIndex index) rightValue right) :
    network.Permits index value (.node choice leftValue rightValue left right)

variable {network : Network ℚ}

theorem choice?_eq_some_iff {index choice : Nat} {cell : Cell ℚ}
    (found : network.cells[index]? = some cell) {chosen : Transition ℚ × ℚ} :
    network.choice? index choice = some chosen ↔ cell.choices[choice]? = some chosen := by
  rw [choice?, found]
  rfl

/-- An observation that is no symbol is not derived from anything. -/
theorem Permits.none_notMem_yield {index value : Nat} {tree : Derivation}
    (permits : network.Permits index value tree) : none ∉ tree.yield := by
  induction permits with
  | leaf => exact fun member => nomatch List.mem_singleton.mp member
  | node _ _ _ _ _ _ _ leftHypothesis rightHypothesis =>
    exact fun member => (List.mem_append.mp member).elim leftHypothesis rightHypothesis

/-- A tree of positive weights is a tree of the network that weighs something. -/
theorem Permits.derives {index value : Nat} {tree : Derivation}
    (permits : network.Permits index value tree) :
    network.Derives index value tree ∧ network.weight tree index value ≠ 0 := by
  induction permits with
  | @leaf index value choice symbol cell transition found valueLt chosen actionPositive known
      symbolPositive =>
    obtain ⟨action, here, actionNonzero⟩ :=
      cell.getElem?_choices_iff.mpr ⟨chosen, actionPositive⟩
    refine ⟨.leaf _ found valueLt here, ?_⟩
    rw [weight, (choice?_eq_some_iff found).mpr here]
    exact mul_ne_zero actionNonzero
      ((transition.observed_ne_zero_iff _ _).mpr ⟨symbol, rfl, known, symbolPositive⟩)
  | @node index value choice leftValue rightValue cell transition left right found valueLt chosen
      actionPositive pairPositive _ _ leftHypothesis rightHypothesis =>
    obtain ⟨action, here, actionNonzero⟩ :=
      cell.getElem?_choices_iff.mpr ⟨chosen, actionPositive⟩
    obtain ⟨leftDerives, leftNonzero⟩ := leftHypothesis
    obtain ⟨rightDerives, rightNonzero⟩ := rightHypothesis
    refine ⟨.node found valueLt here leftDerives rightDerives, ?_⟩
    rw [weight, (choice?_eq_some_iff found).mpr here]
    exact mul_ne_zero actionNonzero (mul_ne_zero
      ((transition.probability_ne_zero_iff _ _ _).mpr pairPositive)
      (mul_ne_zero leftNonzero rightNonzero))

/-- A tree of the network that weighs something consists of positive weights. -/
theorem permits_of_derives {index value : Nat} {tree : Derivation}
    (derives : network.Derives index value tree)
    (nonzero : network.weight tree index value ≠ 0) : network.Permits index value tree := by
  induction derives with
  | @leaf index value choice cell transition action observation found valueLt here =>
    rw [weight, (choice?_eq_some_iff found).mpr here] at nonzero
    obtain ⟨actionNonzero, observedNonzero⟩ := mul_ne_zero_iff.mp nonzero
    obtain ⟨chosen, actionPositive⟩ := cell.getElem?_choices_iff.mp ⟨action, here, actionNonzero⟩
    obtain ⟨symbol, rfl, known, symbolPositive⟩ :=
      (transition.observed_ne_zero_iff _ _).mp observedNonzero
    exact .leaf found valueLt chosen actionPositive known symbolPositive
  | @node index value choice leftValue rightValue cell transition action left right found valueLt
      here _ _ leftHypothesis rightHypothesis =>
    rw [weight, (choice?_eq_some_iff found).mpr here] at nonzero
    obtain ⟨actionNonzero, rest⟩ := mul_ne_zero_iff.mp nonzero
    obtain ⟨pairNonzero, parts⟩ := mul_ne_zero_iff.mp rest
    obtain ⟨leftNonzero, rightNonzero⟩ := mul_ne_zero_iff.mp parts
    obtain ⟨chosen, actionPositive⟩ := cell.getElem?_choices_iff.mp ⟨action, here, actionNonzero⟩
    exact .node found valueLt chosen actionPositive
      ((transition.probability_ne_zero_iff _ _ _).mp pairNonzero)
      (leftHypothesis leftNonzero) (rightHypothesis rightNonzero)

/-! ### Entries -/

theorem weight_nonneg (network : Network ℚ) (tree : Derivation) (index value : Nat) :
    0 ≤ network.weight tree index value := by
  have actionNonneg {index choice : Nat} {transition : Transition ℚ} {action : ℚ}
      (chosen : network.choice? index choice = some (transition, action)) : 0 ≤ action := by
    obtain ⟨cell, found, here⟩ := Option.bind_eq_some_iff.mp chosen
    obtain ⟨choiceLt, same⟩ := List.getElem?_eq_some_iff.mp here
    have nonneg := cell.action_nonneg ⟨choice, choiceLt⟩
    rwa [List.get_eq_getElem, same] at nonneg
  induction tree generalizing index value with
  | leaf choice observation =>
    rw [weight]
    split
    · rename_i transition action chosen
      exact mul_nonneg (actionNonneg chosen) (transition.observed_nonneg observation value)
    · exact le_refl 0
  | node choice leftValue rightValue left right leftHypothesis rightHypothesis =>
    rw [weight]
    split
    · rename_i transition action chosen
      exact mul_nonneg (actionNonneg chosen) (mul_nonneg (transition.probability_nonneg _ _ _)
        (mul_nonneg (leftHypothesis _ _) (rightHypothesis _ _)))
    · exact le_refl 0

/-- An entry is not zero exactly if some tree of positive weights derives the phrase. -/
theorem insideEntry_ne_zero_iff {index value : Nat} {cell : Cell ℚ}
    (found : network.cells[index]? = some cell) (valueLt : value < cell.cardinality)
    (phrase : Phrase) :
    network.insideEntry index phrase value ≠ 0 ↔
      ∃ tree, network.Permits index value tree ∧ tree.yield = phrase := by
  rw [← sum_weight_derivations found valueLt]
  constructor
  · intro nonzero
    obtain ⟨tree, member, treeNonzero⟩ := Finset.exists_ne_zero_of_sum_ne_zero nonzero
    obtain ⟨derives, yields⟩ := mem_derivations_iff.mp member
    exact ⟨tree, permits_of_derives derives treeNonzero, yields⟩
  · rintro ⟨tree, permits, yields⟩ zero
    obtain ⟨derives, treeNonzero⟩ := permits.derives
    have weightless := (Finset.sum_eq_zero_iff_of_nonneg fun other _ =>
      network.weight_nonneg other index value).mp zero
    exact treeNonzero (weightless tree (mem_derivations_iff.mpr ⟨derives, yields⟩))

/-! ### Roots -/

theorem rootProbability_ne_zero_iff (index : Nat) :
    network.rootProbability index ≠ 0 ↔ 0 < network.prior.structuralWeights.getD index 0 :=
  ValueVector.getD_normalized_ne_zero_iff network.prior.structuralWeights_valid index

theorem rootValueProbability_ne_zero_iff (index value : Nat) :
    network.rootValueProbability index value ≠ 0 ↔
      0 < (network.prior.valueWeights.getD index []).getD value 0 := by
  rw [rootValueProbability_eq]
  exact ValueVector.getD_normalized_ne_zero_iff (network.valueWeights_valid index) value

theorem Permits.exists_cell {index value : Nat} {tree : Derivation}
    (permits : network.Permits index value tree) :
    ∃ cell, network.cells[index]? = some cell ∧ value < cell.cardinality := by
  cases permits with
  | leaf found valueLt => exact ⟨_, found, valueLt⟩
  | node found valueLt => exact ⟨_, found, valueLt⟩

/-- A sequence has a probability exactly if it is derived from a root that the prior gives positive
weights. -/
theorem likelihood_ne_zero_iff (phrase : Phrase) :
    network.likelihood phrase ≠ 0 ↔
      ∃ index value tree, 0 < network.prior.structuralWeights.getD index 0 ∧
        0 < (network.prior.valueWeights.getD index []).getD value 0 ∧
        network.Permits index value tree ∧ tree.yield = phrase := by
  have valueNonneg (index value : Nat) :
      0 ≤ network.rootValueProbability index value * network.insideEntry index phrase value :=
    mul_nonneg (network.rootValueProbability_nonneg index value)
      (network.insideEntry_nonneg index phrase value)
  have rootNonneg (index : Nat) : 0 ≤ network.rootProbability index *
      ∑ value ∈ Finset.range (network.cardinalityAt index),
        network.rootValueProbability index value * network.insideEntry index phrase value :=
    mul_nonneg (network.rootProbability_nonneg index)
      (Finset.sum_nonneg fun value _ => valueNonneg index value)
  rw [likelihood_eq_sum]
  constructor
  · intro nonzero
    obtain ⟨index, member, rootNonzero⟩ := Finset.exists_ne_zero_of_sum_ne_zero nonzero
    have found := List.getElem?_eq_getElem (l := network.cells) (Finset.mem_range.mp member)
    obtain ⟨structural, values⟩ := mul_ne_zero_iff.mp rootNonzero
    obtain ⟨value, valueMember, valueNonzero⟩ := Finset.exists_ne_zero_of_sum_ne_zero values
    obtain ⟨prior, entry⟩ := mul_ne_zero_iff.mp valueNonzero
    rw [cardinalityAt_eq found] at valueMember
    obtain ⟨tree, derivable⟩ :=
      (insideEntry_ne_zero_iff found (Finset.mem_range.mp valueMember) phrase).mp entry
    exact ⟨index, value, tree, (rootProbability_ne_zero_iff index).mp structural,
      (rootValueProbability_ne_zero_iff index value).mp prior, derivable⟩
  · rintro ⟨index, value, tree, structural, prior, permits, yields⟩ zero
    obtain ⟨cell, found, valueLt⟩ := permits.exists_cell
    obtain ⟨indexLt, _⟩ := List.getElem?_eq_some_iff.mp found
    have root := (Finset.sum_eq_zero_iff_of_nonneg fun other _ => rootNonneg other).mp zero
      index (Finset.mem_range.mpr indexLt)
    have values := (mul_eq_zero.mp root).resolve_left
      ((rootProbability_ne_zero_iff index).mpr structural)
    have entry := (Finset.sum_eq_zero_iff_of_nonneg fun other _ => valueNonneg index other).mp values
      value (Finset.mem_range.mpr ((cardinalityAt_eq found).symm ▸ valueLt))
    exact mul_ne_zero ((rootValueProbability_ne_zero_iff index value).mpr prior)
      ((insideEntry_ne_zero_iff found valueLt phrase).mpr ⟨tree, permits, yields⟩) entry

/-! ### The pass -/

/-- A vector without entries other than zero is the zero vector. -/
theorem eq_zeros_of_forall_getD {vector : ValueVector ℚ} {size : Nat}
    (fits : vector.length = size)
    (zero : ∀ place, place < size → vector.getD place 0 = 0) : vector = .zeros size := by
  refine List.eq_replicate_iff.mpr ⟨fits, fun entry member => ?_⟩
  obtain ⟨place, inside, rfl⟩ := List.mem_iff_getElem.mp member
  have here := zero place (fits ▸ inside)
  rwa [List.getD_eq_getElem _ _ inside] at here

/-- Zero means underivable: after a pass, an entry of the chart is not zero exactly if some tree of
positive weights derives the observations of the span from the value, and the result is not zero
exactly if such a tree derives the whole sequence from a root that the prior gives positive
weights. All entries are written; where nothing is derivable, the vector is the zero vector. -/
theorem insideObserved_ne_zero_iff_derivable (network : Network ℚ) (terminals : TerminalChart)
    (nonempty : 0 < terminals.length) (accepted : network.accepts terminals.length = true)
    (fits : network.Fits terminals.length) (before : Workspace ℚ) :
    ∃ marginal after,
      runOn (network.insideObserved terminals) before = (.ok marginal, after) ∧
      (∀ index cell span, network.cells[index]? = some cell → span.Within terminals.length →
        ∃ vector, after.chart.get? index span = some vector ∧
          vector.length = cell.cardinality ∧
          (∀ value, value < cell.cardinality → (vector.getD value 0 ≠ 0 ↔
            ∃ tree, network.Permits index value tree ∧ tree.yield = terminals.phrase span)) ∧
          ((¬ ∃ value tree, network.Permits index value tree ∧
              tree.yield = terminals.phrase span) →
            vector = ValueVector.zeros cell.cardinality)) ∧
      (marginal ≠ 0 ↔
        ∃ index value tree, 0 < network.prior.structuralWeights.getD index 0 ∧
          0 < (network.prior.valueWeights.getD index []).getD value 0 ∧
          network.Permits index value tree ∧ tree.yield = terminals.symbols) := by
  obtain ⟨after, ran, holds⟩ := runOn_insideObserved_holds accepted fits before
  rw [if_neg (Nat.ne_of_gt nonempty)] at ran
  refine ⟨_, after, ran, ?_, likelihood_ne_zero_iff _⟩
  intro index cell span found within
  obtain ⟨indexLt, _⟩ := List.getElem?_eq_some_iff.mp found
  have lengths := network.length_insideVector found (terminals.phrase span)
  have entries (value : Nat) (valueLt : value < cell.cardinality) :=
    insideEntry_ne_zero_iff found valueLt (terminals.phrase span)
  refine ⟨_, holds index span indexLt within, lengths, entries, fun underivable => ?_⟩
  refine eq_zeros_of_forall_getD lengths fun value valueLt => ?_
  by_contra nonzero
  obtain ⟨tree, derivable⟩ := (entries value valueLt).mp nonzero
  exact underivable ⟨value, tree, derivable⟩

/-- In the small network, a symbol that is known can be derived, and what is no symbol cannot, so
neither can the two together. -/
theorem specimen_ne_zero_iff_derivable :
    specimen.accepts 2 = true ∧ specimen.Fits 2 ∧
      ∃ after,
        runOn (specimen.insideObserved ⟨[some 0, none]⟩) .initial = (.ok 0, after) ∧
        (∃ vector, after.chart.get? 0 ⟨0, 1⟩ = some vector ∧ vector.getD 0 0 ≠ 0) ∧
        after.chart.get? 0 ⟨1, 2⟩ = some (ValueVector.zeros 2) := by
  have room : specimen.Fits 2 := fits_specimen (by decide)
  obtain ⟨marginal, after, ran, entries, root⟩ := insideObserved_ne_zero_iff_derivable specimen
    ⟨[some 0, none]⟩ (by decide) (by decide) room .initial
  have underivable : marginal = 0 := by
    by_contra nonzero
    obtain ⟨_, _, tree, _, _, permits, yields⟩ := root.mp nonzero
    exact permits.none_notMem_yield (yields ▸ List.mem_cons_of_mem _ List.mem_cons_self)
  obtain ⟨first, firstFound, _, derivable, _⟩ :=
    entries 0 _ ⟨0, 1⟩ rfl ⟨Nat.zero_lt_one, by decide⟩
  obtain ⟨second, secondFound, _, _, zero⟩ :=
    entries 0 _ ⟨1, 2⟩ rfl ⟨Nat.one_lt_two, by decide⟩
  refine ⟨by decide, room, after, underivable ▸ ran, ⟨first, firstFound, ?_⟩, ?_⟩
  · refine (derivable 0 Nat.two_pos).mpr ⟨.leaf 0 (some 0), ?_, rfl⟩
    exact .leaf rfl Nat.two_pos rfl (by decide +kernel) (by decide) (by decide +kernel)
  · rw [secondFound, zero]
    · rfl
    · rintro ⟨_, tree, permits, yields⟩
      exact permits.none_notMem_yield (yields ▸ List.mem_cons_self)

end Network

end RecursiveBayes
