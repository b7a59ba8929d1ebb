/-
This file says when a network fails on a sequence. It refuses the sequence exactly if it
is longer than the configuration allows, and then nothing changes. The check of the
network, together with the order of the schedule, rules out every other fault, so all
that is asked of the caller is room: the chart has to fit into memory, and the counts of
the pass into words. Both depend on the length of the sequence alone and are given in
closed form. Without room the pass aborts.
-/

import RecursiveBayes.Proofs.Network.Complete
import RecursiveBayes.Proofs.Schedule.Sums
import RecursiveBayes.Scalar.Rational

open RecursiveBayes.Action

namespace RecursiveBayes

variable {α : Type} [Scalar α]

namespace Network

/-! ### What is refused -/

theorem runOn_insideObserved_of_refused {network : Network α} {terminals : TerminalChart}
    (refused : network.accepts terminals.length = false) (before : Workspace α) :
    runOn (network.insideObserved terminals) before =
      (.error (.fault (.sequenceTooLong terminals.length network.configuration.maximumLength)),
        before) := by
  rw [insideObserved, refused, if_neg Bool.false_ne_true]
  exact runOn_throw _ _

/-! ### What a pass leaves behind -/

/-- A workspace after a complete pass over a sequence: there is one table for each cell, and the
vectors of each cell are written for exactly the spans of the sequence. -/
structure Filled (network : Network α) (terminals : TerminalChart) (workspace : Workspace α) :
    Prop where
  observed : workspace.terminals = terminals
  sequenceLength : workspace.chart.sequenceLength = terminals.length
  cardinalities : workspace.chart.cardinalities = network.cardinalities
  populated : ∀ index span, workspace.chart.Holds index span ↔
    index < network.cellCount ∧ span.Within terminals.length
  lengths : ∀ index cell span vector, network.cells[index]? = some cell →
    workspace.chart.get? index span = some vector → vector.length = cell.cardinality

theorem AgreesOn.filled {network : Network α} {terminals : TerminalChart}
    {workspace : Workspace α} (agrees : network.AgreesOn terminals workspace)
    (populated : ∀ index span, workspace.chart.Holds index span ↔
      index < network.cellCount ∧ span.Within terminals.length) :
    network.Filled terminals workspace where
  observed := agrees.observed
  sequenceLength := agrees.chart.sequenceLength
  cardinalities := agrees.chart.cardinalities
  populated := populated
  lengths index cell span vector found read := by
    rw [agrees.chart.entries index span vector read]
    exact network.length_insideVector found _

/-- The empty sequence is loaded and leaves a blank chart. It has no probability. -/
theorem runOn_insideObserved_blank {network : Network α} {terminals : TerminalChart}
    (accepted : network.accepts terminals.length = true)
    (fits : network.FitsMemory terminals.length) (isEmpty : terminals.length = 0)
    (before : Workspace α) :
    runOn (network.insideObserved terminals) before =
      (.ok 0, ⟨terminals, .blank network.cardinalities terminals.length,
        { sequenceLength := terminals.length }⟩) := by
  rw [insideObserved, if_pos accepted, runOn_bind_of_ok (runOn_load fits before), if_pos isEmpty]
  exact runOn_pure _ _

/-- The empty sequence has a result as well, and its blank chart lacks nothing. -/
theorem runOn_insideObserved_of_empty {network : Network α} {terminals : TerminalChart}
    (accepted : network.accepts terminals.length = true)
    (fits : network.FitsMemory terminals.length) (isEmpty : terminals.length = 0)
    (before : Workspace α) :
    ∃ after, runOn (network.insideObserved terminals) before = (.ok 0, after) ∧
      network.AgreesOn terminals after ∧ network.Filled terminals after := by
  have agrees := network.agreesOn_blank terminals { sequenceLength := terminals.length }
  refine ⟨_, runOn_insideObserved_blank accepted fits isEmpty before, agrees,
    agrees.filled fun index span => ?_⟩
  rw [InsideChart.holds_blank, isEmpty]
  constructor
  · exact False.elim
  · rintro ⟨_, proper, inside⟩
    exact absurd (Nat.lt_of_lt_of_le proper inside) (Nat.not_lt_zero _)

/-- A sequence that is accepted and that has room has a result, also if it is empty, and the chart
holds the inside vectors of all cells for all spans of the sequence. -/
theorem runOn_insideObserved_holds {network : Network α} {terminals : TerminalChart}
    (accepted : network.accepts terminals.length = true)
    (fits : network.Fits terminals.length) (before : Workspace α) :
    ∃ after, runOn (network.insideObserved terminals) before =
        (.ok (if terminals.length = 0 then 0 else network.likelihood terminals.symbols), after) ∧
      ∀ index span, index < network.cellCount → span.Within terminals.length →
        after.chart.get? index span =
          some (network.insideVector index (terminals.phrase span)) := by
  by_cases isEmpty : terminals.length = 0
  · obtain ⟨after, ran, agrees, filled⟩ :=
      runOn_insideObserved_of_empty accepted fits.memory isEmpty before
    rw [if_pos isEmpty]
    exact ⟨after, ran, fun index span indexLt within =>
      agrees.chart.get?_of_holds ((filled.populated index span).mpr ⟨indexLt, within⟩)⟩
  · obtain ⟨after, ran, agrees, holds⟩ := runOn_insideObserved accepted fits isEmpty
    rw [if_neg isEmpty]
    exact ⟨after, ran before, fun index span indexLt within =>
      agrees.chart.get?_of_holds ((holds index span).mpr ⟨indexLt, within⟩)⟩

/-! ### Room -/

/-- A pass over an accepted sequence aborts if its chart fits into memory, but a count outgrows a
word. -/
theorem runOn_insideObserved_of_overflow {network : Network α} {terminals : TerminalChart}
    (accepted : network.accepts terminals.length = true)
    (memory : network.FitsMemory terminals.length)
    (tooLarge : ¬ (network.countPass terminals.length
      { sequenceLength := terminals.length }).Words) (before : Workspace α) :
    (runOn (network.insideObserved terminals) before).1 = .error (.abort .overflow) := by
  have nonempty : terminals.length ≠ 0 := by
    intro isEmpty
    rw [isEmpty, countPass_of_empty] at tooLarge
    exact tooLarge (Statistics.words_fresh 0)
  have blank := network.agreesOn_blank terminals { sequenceLength := terminals.length }
  rw [runOn_insideObserved_eq accepted memory nonempty]
  exact runOn_runInside_of_overflow blank.observed blank.chart.shaped memory
    (Statistics.words_fresh terminals.length) tooLarge

/-- A pass over an accepted sequence aborts if there is no room for it. -/
theorem runOn_insideObserved_of_full {network : Network α} {terminals : TerminalChart}
    (accepted : network.accepts terminals.length = true)
    (full : ¬ network.Fits terminals.length) (before : Workspace α) :
    ∃ cause, (runOn (network.insideObserved terminals) before).1 = .error (.abort cause) := by
  by_cases memory : network.FitsMemory terminals.length
  · exact ⟨.overflow, runOn_insideObserved_of_overflow accepted memory
      (fun counts => full ⟨memory, counts⟩) before⟩
  · obtain ⟨cause, aborted⟩ := runOn_load_of_full memory before
    rw [insideObserved, if_pos accepted, runOn_bind_of_error aborted]
    exact ⟨cause, rfl⟩

/-- A pass that returns had room for the sequence. -/
theorem fits_of_insideObserved {network : Network α} {terminals : TerminalChart} {marginal : α}
    {before after : Workspace α}
    (returned : runOn (network.insideObserved terminals) before = (.ok marginal, after)) :
    network.accepts terminals.length = true ∧ network.Fits terminals.length := by
  cases accepted : network.accepts terminals.length with
  | false =>
    rw [runOn_insideObserved_of_refused accepted] at returned
    cases returned
  | true =>
    refine ⟨rfl, ?_⟩
    by_contra full
    obtain ⟨cause, aborted⟩ := runOn_insideObserved_of_full accepted full before
    rw [returned] at aborted
    cases aborted

/-- What a pass returns is the probability of the sequence, and its chart agrees with the network,
also if the sequence is empty. -/
theorem agrees_of_insideObserved {network : Network α} {terminals : TerminalChart} {marginal : α}
    {before after : Workspace α}
    (returned : runOn (network.insideObserved terminals) before = (.ok marginal, after)) :
    network.Agrees terminals after.chart ∧
      marginal = if terminals.length = 0 then 0 else network.likelihood terminals.symbols := by
  obtain ⟨accepted, fits⟩ := fits_of_insideObserved returned
  by_cases isEmpty : terminals.length = 0
  · obtain ⟨last, ran, agrees, _⟩ :=
      runOn_insideObserved_of_empty accepted fits.memory isEmpty before
    cases ran.symm.trans returned
    exact ⟨agrees.chart, (if_pos isEmpty).symm⟩
  · obtain ⟨last, ran, agrees, _⟩ := runOn_insideObserved accepted fits isEmpty
    cases (ran before).symm.trans returned
    exact ⟨agrees.chart, (if_neg isEmpty).symm⟩

/-- What is read after a pass: the inside vectors of all cells for all spans of the sequence, and
nothing else. -/
theorem runOn_insideObserved_reads {network : Network α} {terminals : TerminalChart}
    (accepted : network.accepts terminals.length = true)
    (fits : network.Fits terminals.length) (before : Workspace α) :
    ∃ after, runOn (network.insideObserved terminals) before =
        (.ok (if terminals.length = 0 then 0 else network.likelihood terminals.symbols), after) ∧
      ∀ index span, after.chart.get? index span =
        if index < network.cellCount ∧ span.Within terminals.length then
          some (network.insideVector index (terminals.phrase span))
        else
          none := by
  obtain ⟨after, ran, holds⟩ := runOn_insideObserved_holds accepted fits before
  refine ⟨after, ran, fun index span => ?_⟩
  split
  · rename_i inside
    exact holds index span inside.1 inside.2
  · rename_i outside
    obtain ⟨agrees, _⟩ := agrees_of_insideObserved ran
    by_contra written
    exact outside (agrees.shaped.of_holds (Option.isSome_iff_ne_none.mpr written))

/-! ### The counts of a pass -/

/-- A pass counts one item for each length and cell, one vector for each cell and span, and for each
cell the split points of all spans. -/
theorem countPass_eq (network : Network α) (length : Nat) (statistics : Statistics) :
    network.countPass length statistics =
      { sequenceLength := statistics.sequenceLength
        workItems := statistics.workItems + length * network.cellCount
        cellUpdates := statistics.cellUpdates +
          network.cellCount * (Span.allWithin length).card
        splitPoints := statistics.splitPoints +
          network.cellCount * ∑ span ∈ Span.allWithin length, span.splitCount } := by
  have vectors := SpanSchedule.total_items length network.cellCount fun _ => 1
  have points := SpanSchedule.total_items length network.cellCount fun size => size - 1
  simp only [Sizes.total_map_one, ← Finset.card_eq_sum_ones] at vectors
  simp only [← Nat.sub_add_eq] at points
  rw [countPass, Statistics.afterItems_eq, standardItems, vectors]
  simp only [Statistics.pointsOf, List.length_map, List.length_range, ← Nat.sub_add_eq, points,
    Span.splitCount]

/-- Twice the number of vectors for all cells and spans. -/
theorem twice_vectors_eq (count length : Nat) :
    count * length * (length + 1) = 2 * (count * (Span.allWithin length).card) := by
  rw [Nat.mul_left_comm, Span.two_mul_card_allWithin, Nat.mul_assoc]

/-- Six times the number of split points for all cells and spans. -/
theorem six_times_points_eq (count length : Nat) :
    count * (length - 1) * length * (length + 1) =
      6 * (count * ∑ span ∈ Span.allWithin length, span.splitCount) := by
  rw [Nat.mul_left_comm, Span.six_mul_sum_splitCount, Nat.mul_assoc, Nat.mul_assoc, Nat.mul_assoc]

/-- The counts of a single pass in closed form. -/
theorem countPass_fresh (network : Network α) (length : Nat) :
    network.countPass length { sequenceLength := length } =
      { sequenceLength := length
        workItems := length * network.cellCount
        cellUpdates := network.cellCount * length * (length + 1) / 2
        splitPoints := network.cellCount * (length - 1) * length * (length + 1) / 6 } := by
  rw [countPass_eq, twice_vectors_eq, six_times_points_eq,
    Nat.mul_div_cancel_left _ Nat.two_pos, Nat.mul_div_cancel_left _ (Nat.succ_pos 5)]
  simp only [Nat.zero_add]

/-- There is room for sequences of a length exactly if the tables of all cells fit into memory, and
the closed forms of the counts are words. -/
theorem fits_iff (network : Network α) (length : Nat) :
    network.Fits length ↔
      network.FitsMemory length ∧
        length * network.cellCount < Word.limit ∧
        network.cellCount * length * (length + 1) / 2 < Word.limit ∧
        network.cellCount * (length - 1) * length * (length + 1) / 6 < Word.limit := by
  have counts := network.countPass_fresh length
  constructor
  · rintro ⟨memory, words⟩
    rw [counts] at words
    exact ⟨memory, words⟩
  · rintro ⟨memory, words⟩
    refine ⟨memory, ?_⟩
    rw [counts]
    exact words

/-! ### A small network -/

/-- The table of some weights that are known to be valid. -/
def tableOf {rank : Nat} (weights : Tensor ℚ rank) (valid : weights.firstInvalid? = none)
    (nonempty : weights.isEmpty = false) : ConditionalTable ℚ rank :=
  ⟨weights, weights.normalized, valid, nonempty, rfl⟩

/-- Two cells, for phrases and for words. A phrase has two values and is a symbol or splits into a
phrase and a word; a word is a symbol or splits into words. Sequences of at most three symbols
are accepted. -/
def specimen : Network ℚ where
  cells :=
    [{ domain := ⟨2, Nat.two_pos⟩
       transitions :=
        [.terminal ⟨tableOf ⟨#v[2], 2, #[3, 1, 1, 0], by decide⟩ (by decide +kernel) (by decide)⟩,
         .binary ⟨tableOf ⟨#v[2, 1], 2, #[1, 2, 0, 1], by decide⟩ (by decide +kernel) (by decide),
          some (0, 1)⟩]
       weights := [3, 1]
       weights_valid := by decide +kernel
       length_weights := rfl
       parents_eq := by decide },
     { domain := ⟨1, Nat.one_pos⟩
       transitions :=
        [.terminal ⟨tableOf ⟨#v[2], 1, #[1, 3], by decide⟩ (by decide +kernel) (by decide)⟩,
         .binary ⟨tableOf ⟨#v[1, 1], 1, #[2], by decide⟩ (by decide +kernel) (by decide), none⟩]
       weights := [2, 1]
       weights_valid := by decide +kernel
       length_weights := rfl
       parents_eq := by decide }]
  prior :=
    { structuralWeights := [1, 1]
      valueWeights := [[1, 2], [1]]
      structuralWeights_valid := by decide +kernel
      length_structuralWeights := rfl
      valueWeights_valid := by decide +kernel
      valueWeights_nonempty := by decide }
  configuration := { maximumLength := 3 }
  sound := by decide +kernel

/-- The small network has room for all sequences that it accepts, and for those of one more
symbol. -/
theorem fits_specimen {length : Nat} (short : length ≤ 4) : specimen.Fits length := by
  have room : ∀ length ≤ 4,
      (∀ cell ∈ specimen.cells, Memory.numberSize *
        ((length + 1) * (length + 1) * cell.cardinality) ≤ Memory.largestObject) ∧
      length * specimen.cellCount < Word.limit ∧
      specimen.cellCount * length * (length + 1) / 2 < Word.limit ∧
      specimen.cellCount * (length - 1) * length * (length + 1) / 6 < Word.limit := by
    decide +kernel
  exact (specimen.fits_iff length).mpr (room length short)

/-! ### Failure -/

end Network

end RecursiveBayes
