/-
This file defines the inside vectors of a network by recursion, without a chart.
The vector of a cell for some consecutive observations is explained from the
vectors of all shorter stretches that the observations split into. It depends on
the observations alone, not on where in a longer sequence they stand.

A span of a sequence has the same analysis as the observations in it, so this
recursion is what the entries of a chart are compared with.
-/

import RecursiveBayes.Chart.Terminal
import RecursiveBayes.Proofs.Cell.Explanation
import RecursiveBayes.Proofs.Network.Soundness

namespace RecursiveBayes

/-! ### Phrases -/

/-- Some consecutive observations. -/
abbrev Phrase : Type := List (Option Nat)

/-- The two parts of a phrase for each of its split points, in ascending order of the split
point. -/
def Phrase.splits (phrase : Phrase) : List (Phrase × Phrase) :=
  (List.range' 1 (phrase.length - 1)).map fun point => (phrase.take point, phrase.drop point)

/-- A phrase of one observation is analysed as it, and a longer one by its splits. -/
def Phrase.analysis (phrase : Phrase) : Analysis Phrase where
  observation? := if phrase.length = 1 then phrase[0]? else none
  parts := phrase.splits

/-- The two parts of a split make up the phrase, and neither of them is empty. -/
theorem Phrase.mem_splits {phrase left right : Phrase} :
    (left, right) ∈ phrase.splits ↔ left ++ right = phrase ∧ left ≠ [] ∧ right ≠ [] := by
  simp only [splits, List.mem_map, List.mem_range'_1, Prod.mk.injEq]
  constructor
  · rintro ⟨point, bounds, rfl, rfl⟩
    refine ⟨List.take_append_drop _ _, fun empty => ?_, fun empty => ?_⟩
    · have := congrArg List.length empty
      rw [List.length_take, List.length_nil] at this
      omega
    · have := congrArg List.length empty
      rw [List.length_drop, List.length_nil] at this
      omega
  · rintro ⟨rfl, leftSome, rightSome⟩
    have leftPos := List.length_pos_iff.mpr leftSome
    have rightPos := List.length_pos_iff.mpr rightSome
    refine ⟨left.length, ?_, List.take_left, List.drop_left⟩
    rw [List.length_append]
    omega

theorem Phrase.length_lt_of_mem_splits {phrase : Phrase} {pair : Phrase × Phrase}
    (member : pair ∈ phrase.splits) :
    pair.1.length < phrase.length ∧ pair.2.length < phrase.length := by
  obtain ⟨rfl, leftSome, rightSome⟩ := mem_splits.mp member
  have leftPos := List.length_pos_iff.mpr leftSome
  have rightPos := List.length_pos_iff.mpr rightSome
  rw [List.length_append]
  omega

/-! ### Phrases of a sequence -/

/-- The observations in a span. -/
def TerminalChart.phrase (terminals : TerminalChart) (span : Span) : Phrase :=
  (terminals.symbols.drop span.start).take (span.stop - span.start)

/-- A span of one position is analysed as the observation there, and a longer one by its
splits. -/
def Span.analysis (span : Span) (terminals : TerminalChart) : Analysis Span where
  observation? := if span.stop - span.start = 1 then terminals.symbols[span.start]? else none
  parts := span.splitPoints.map span.splitAt

namespace TerminalChart

variable {terminals : TerminalChart} {span : Span}

theorem length_phrase (within : span.Within terminals.length) :
    (terminals.phrase span).length = span.stop - span.start := by
  obtain ⟨_, fits⟩ := within
  rw [length] at fits
  rw [phrase, List.length_take, List.length_drop]
  omega

/-- The phrase of the whole sequence. -/
theorem phrase_whole (terminals : TerminalChart) :
    terminals.phrase ⟨0, terminals.length⟩ = terminals.symbols :=
  List.take_length

theorem phrase_splitAt (terminals : TerminalChart) {span : Span} {point : Nat}
    (left : span.start ≤ point) (right : point ≤ span.stop) :
    terminals.phrase (span.splitAt point).1 = (terminals.phrase span).take (point - span.start) ∧
      terminals.phrase (span.splitAt point).2 =
        (terminals.phrase span).drop (point - span.start) := by
  constructor
  · simp only [phrase, Span.splitAt, List.take_take]
    rw [Nat.min_eq_left (by omega)]
  · simp only [phrase, Span.splitAt, List.drop_take, List.drop_drop]
    rw [show span.start + (point - span.start) = point by omega,
      show span.stop - span.start - (point - span.start) = span.stop - point by omega]

/-- A span and the phrase in it have one analysis. -/
theorem analysis_phrase (within : span.Within terminals.length) :
    (terminals.phrase span).analysis = (span.analysis terminals).map terminals.phrase := by
  have lengths := length_phrase within
  rw [Phrase.analysis, Analysis.map, Span.analysis]
  congr 1
  · rw [lengths]
    split
    · rename_i single
      rw [phrase, single, List.getElem?_take_of_lt Nat.zero_lt_one, List.getElem?_drop,
        Nat.add_zero]
    · rfl
  · have points : span.splitPoints =
        (List.range' 1 (span.stop - span.start - 1)).map (span.start + ·) := by
      rw [Span.splitPoints, Span.splitCount, Nat.sub_add_eq, List.map_add_range']
    rw [Phrase.splits, lengths, points, List.map_map, List.map_map]
    refine List.map_congr_left fun offset member => ?_
    have bounds := List.mem_range'_1.mp member
    have after : span.start ≤ span.start + offset := Nat.le_add_right _ _
    have before : span.start + offset ≤ span.stop := by omega
    have left := (terminals.phrase_splitAt after before).1
    have right := (terminals.phrase_splitAt after before).2
    simp only [Function.comp_apply, left, right, Nat.add_sub_cancel_left]

end TerminalChart

variable {α : Type} [Scalar α]

/-! ### The recursion -/

namespace Network

/-- The inside vector of a cell for some observations, explained from those of all shorter
phrases. -/
def insideVector (network : Network α) (index : Nat) (phrase : Phrase) : ValueVector α :=
  match network.cells[index]? with
  | none => []
  | some cell => cell.explain index phrase.analysis fun child part =>
      if part.length < phrase.length then network.insideVector child part else []
termination_by phrase.length

variable (network : Network α)

/-- The inside vector of a cell explains the observations by the inside vectors of their parts. -/
theorem insideVector_eq {index : Nat} {cell : Cell α} (found : network.cells[index]? = some cell)
    (phrase : Phrase) :
    network.insideVector index phrase =
      cell.explain index phrase.analysis network.insideVector := by
  rw [insideVector, found]
  refine cell.explain_congr index fun transition action _ _ pair member => ?_
  obtain ⟨left, right⟩ := Phrase.length_lt_of_mem_splits member
  exact ⟨if_pos left, if_pos right⟩

/-- The inside vector of a cell for a span is explained by those for the parts of the span. -/
theorem insideVector_phrase {index : Nat} {cell : Cell α}
    (found : network.cells[index]? = some cell) {terminals : TerminalChart} {span : Span}
    (within : span.Within terminals.length) :
    network.insideVector index (terminals.phrase span) =
      cell.explain index (span.analysis terminals)
        (fun child part => network.insideVector child (terminals.phrase part)) := by
  rw [network.insideVector_eq found, TerminalChart.analysis_phrase within, cell.explain_map]

theorem length_insideVector {index : Nat} {cell : Cell α}
    (found : network.cells[index]? = some cell) (phrase : Phrase) :
    (network.insideVector index phrase).length = cell.cardinality := by
  rw [network.insideVector_eq found, cell.length_explain]

end Network

/-! ### The probability of a phrase -/

/-- The probability of a sequence, from root vectors that fit the prior. -/
def Prior.likelihood (prior : Prior α) (roots : List (ValueVector α)) : α :=
  ((prior.structural.zip prior.values).zip roots).foldl
    (fun sum root => sum + root.1.1 * ValueVector.dot root.1.2 root.2) 0

/-- The probability of some observations, from the inside vectors of all cells for them. -/
def Network.likelihood (network : Network α) (phrase : Phrase) : α :=
  network.prior.likelihood
    ((List.range network.cellCount).map fun index => network.insideVector index phrase)

/-- The inside vectors of all cells for one phrase fit the prior. -/
theorem Network.marginal_eq_ok (network : Network α) (phrase : Phrase) :
    network.prior.marginal
        ((List.range network.cellCount).map fun index => network.insideVector index phrase) =
      .ok (network.likelihood phrase) := by
  rw [Prior.marginal, List.length_map, List.length_range, if_pos network.cellCount_prior.symm]
  refine foldlM_eq_ok (fun sum root member => ?_) _
  obtain ⟨index, inside⟩ := List.getElem?_of_mem member
  obtain ⟨foundPair, foundRoot⟩ := List.getElem?_zip_eq_some.mp inside
  obtain ⟨_, foundValues⟩ := List.getElem?_zip_eq_some.mp foundPair
  have indexLt : index < network.cellCount := by
    obtain ⟨indexLt, _⟩ := List.getElem?_eq_some_iff.mp foundRoot
    rwa [List.length_map, List.length_range] at indexLt
  have found := List.getElem?_eq_getElem indexLt
  rw [List.getElem?_map, List.getElem?_range indexLt, Option.map_some,
    Option.some.injEq] at foundRoot
  rw [Prior.addRoot, if_pos]
  rw [← foundRoot, network.length_insideVector found, network.length_values found foundValues]

end RecursiveBayes
