/-
This file says what an inside pass counts. The counts are kept up by every update of the
chart, one item at a time, but after the pass they depend on nothing but the length of
the sequence and the number of cells: there is one item for each length and cell, one
vector for each cell and span, and for each cell all split points of all spans.

The vectors are counted three times over, by the updates, by the slots of the chart and
by the spans of the sequence. The counts agree because no span is asked for twice: every
update fills slots that were empty.

The counts are words. They only ever grow during a pass, so a pass that has room comes to
its end exactly if the closed forms are words.
-/

import RecursiveBayes.Proofs.Chart.Counting
import RecursiveBayes.Proofs.Network.Healing

open RecursiveBayes.Action

namespace RecursiveBayes

variable {α : Type}

namespace Network

/-! ### The count of the chart -/

/-- The count of the chart stays right with every write. -/
theorem kept_counted : Kept fun state : Workspace α => state.chart.Counted :=
  .of_ignoresCounts (fun _ _ counted => counted)
    fun _ _ _ _ accepted counted => counted.write accepted

/-- A chart that is written at exactly the spans of a sequence counts them for each variable. -/
theorem count_of_holds {chart : InsideChart α} {variableCount length : Nat}
    (counted : chart.Counted)
    (holds : ∀ index span, chart.Holds index span ↔ index < variableCount ∧ span.Within length) :
    chart.count = variableCount * (Span.allWithin length).card := by
  have places : ∀ index span,
      (index, span) ∈ Finset.range variableCount ×ˢ Span.allWithin length ↔
        (chart.get? index span).isSome := by
    intro index span
    rw [Finset.mem_product, Finset.mem_range, Span.mem_allWithin]
    exact (holds index span).symm
  rw [counted _ places, Finset.card_product, Finset.card_range]

variable [Scalar α] {network : Network α} {terminals : TerminalChart}

/-! ### The counts of a pass -/

/-- What an accepted sequence leaves behind, whatever was there before: a chart that is written at
exactly the spans of the sequence and counts them, and the counts of one pass. -/
theorem runOn_insideObserved_counted (accepted : network.accepts terminals.length = true)
    (fits : network.Fits terminals.length) (before : Workspace α) :
    ∃ marginal chart, runOn (network.insideObserved terminals) before =
        (.ok marginal, ⟨terminals, chart,
          network.countPass terminals.length { sequenceLength := terminals.length }⟩) ∧
      chart.Counted ∧
      ∀ index span, chart.Holds index span ↔
        index < network.cellCount ∧ span.Within terminals.length := by
  have blank : (InsideChart.blank network.cardinalities terminals.length :
      InsideChart α).Counted := InsideChart.counted_blank _ _
  by_cases isEmpty : terminals.length = 0
  · have ran := runOn_insideObserved_blank accepted fits.memory isEmpty before
    obtain ⟨after, same, _, filled⟩ :=
      runOn_insideObserved_of_empty accepted fits.memory isEmpty before
    cases same.symm.trans ran
    refine ⟨0, _, ?_, blank, filled.populated⟩
    rw [ran, isEmpty, countPass_of_empty]
  · have fresh := network.agreesOn_blank terminals { sequenceLength := terminals.length }
    obtain ⟨chart, performed, agrees, holds⟩ :=
      performAll_standardItems fresh.observed fresh.chart.shaped fits.memory fits.counts
    have ran := runOn_runInside_of_performed fresh.observed fits.memory isEmpty performed
      (agrees.agreesOn _) holds
    have counted : (runOn ((network.standardItems terminals.length).forM network.protocol.perform)
        ⟨terminals, .blank network.cardinalities terminals.length,
          { sequenceLength := terminals.length }⟩).2.chart.Counted :=
      kept_counted.performAll _ blank
    rw [performed] at counted
    exact ⟨_, chart, (runOn_insideObserved_eq accepted fits.memory isEmpty before).trans ran,
      counted, holds⟩

/-- After a pass over an accepted sequence, whatever was run before, the counts have closed forms
in the length of the sequence and the number of cells, in which the divisions leave no remainder;
for the empty sequence all of them are zero. The number of updated vectors is the number of
vectors that the chart holds. The number of split points is, for each cell, the number of pairs
into which all the spans of the sequence split. The pass comes to its end exactly if the chart fits
into memory and the closed forms are words, and aborts otherwise. -/
theorem insideObserved_counts_in_closed_form (network : Network α) (terminals : TerminalChart)
    (accepted : network.accepts terminals.length = true) (before : Workspace α) :
    (∀ marginal after, runOn (network.insideObserved terminals) before = (.ok marginal, after) →
      after.statistics =
        { sequenceLength := terminals.length
          workItems := terminals.length * network.cellCount
          cellUpdates := network.cellCount * terminals.length * (terminals.length + 1) / 2
          splitPoints := network.cellCount * (terminals.length - 1) * terminals.length *
            (terminals.length + 1) / 6 } ∧
      2 ∣ network.cellCount * terminals.length * (terminals.length + 1) ∧
      6 ∣ network.cellCount * (terminals.length - 1) * terminals.length *
        (terminals.length + 1) ∧
      (terminals.length = 0 → after.statistics = ⟨0, 0, 0, 0⟩) ∧
      after.statistics.cellUpdates = after.chart.count ∧
      (terminals.length < Word.limit → ∃ pairs : Span → List (Span × Span),
        (∀ span : Span, span.Within terminals.length → span.splits = .ok (pairs span)) ∧
        after.statistics.splitPoints =
          network.cellCount * ∑ span ∈ Span.allWithin terminals.length, (pairs span).length)) ∧
    ((∃ marginal after,
        runOn (network.insideObserved terminals) before = (.ok marginal, after)) ↔
      network.FitsMemory terminals.length ∧
        terminals.length * network.cellCount < Word.limit ∧
        network.cellCount * terminals.length * (terminals.length + 1) / 2 < Word.limit ∧
        network.cellCount * (terminals.length - 1) * terminals.length *
          (terminals.length + 1) / 6 < Word.limit) ∧
    (¬ network.Fits terminals.length → ∃ cause,
      (runOn (network.insideObserved terminals) before).1 = .error (.abort cause)) := by
  refine ⟨fun marginal after returned => ?_, ?_,
    fun full => runOn_insideObserved_of_full accepted full before⟩
  · obtain ⟨_, fits⟩ := fits_of_insideObserved returned
    obtain ⟨_, chart, ran, counted, holds⟩ := runOn_insideObserved_counted accepted fits before
    cases ran.symm.trans returned
    have counts := network.countPass_eq terminals.length { sequenceLength := terminals.length }
    simp only [Nat.zero_add] at counts
    refine ⟨network.countPass_fresh terminals.length, ⟨_, twice_vectors_eq _ _⟩,
      ⟨_, six_times_points_eq _ _⟩, fun isEmpty => ?_, ?_, fun word =>
        ⟨fun span => span.splitPoints.map span.splitAt, fun span within => ?_, ?_⟩⟩
    · simp only [isEmpty, countPass_of_empty]
    · rw [counts, count_of_holds counted holds]
    · exact Span.splits_eq_ok (Nat.lt_of_le_of_lt (Nat.le_trans within.1 within.2) word)
    · simp only [counts, List.length_map, Span.splitPoints, List.length_range']
  · rw [← fits_iff]
    constructor
    · rintro ⟨marginal, after, returned⟩
      exact (fits_of_insideObserved returned).2
    · intro fits
      obtain ⟨marginal, chart, ran, _⟩ := runOn_insideObserved_counted accepted fits before
      exact ⟨marginal, _, ran⟩

/-- The small network counts three symbols alike after a history in which vectors were written by
hand: twelve vectors for six spans, which split into four pairs. -/
theorem specimen_counts_after_tampering :
    specimen.accepts 3 = true ∧ 3 < Word.limit ∧
      tampered.statistics = ⟨2, 4, 6, 2⟩ ∧
      ∃ marginal after,
        runOn (specimen.insideObserved ⟨[some 0, none, some 1]⟩) tampered = (.ok marginal, after) ∧
        after.statistics = ⟨3, 6, 12, 8⟩ ∧ after.chart.count = 12 ∧
        ∃ pairs : Span → List (Span × Span), Span.splits ⟨0, 3⟩ = .ok (pairs ⟨0, 3⟩) ∧
          ∑ span ∈ Span.allWithin 3, (pairs span).length = 4 := by
  obtain ⟨counts, returns, _⟩ := insideObserved_counts_in_closed_form specimen
    ⟨[some 0, none, some 1]⟩ (by decide) tampered
  obtain ⟨marginal, after, ran⟩ :=
    returns.mpr ((specimen.fits_iff 3).mp (fits_specimen (by decide)))
  obtain ⟨closed, _, _, _, vectors, points⟩ := counts marginal after ran
  obtain ⟨pairs, splits, total⟩ := points (by decide)
  have known : after.statistics = ⟨3, 6, 12, 8⟩ := closed
  rw [known] at vectors total
  refine ⟨by decide, by decide, by decide +kernel, marginal, after, ran, known,
    vectors.symm, pairs, splits ⟨0, 3⟩ (by decide), ?_⟩
  have twice : 8 = 2 * ∑ span ∈ Span.allWithin 3, (pairs span).length := total
  omega

end Network

end RecursiveBayes
