/-
This file runs the writes of an update. A write either stores its vector or is refused
with a fault and changes nothing. The writes of an update change the chart only, and the
counts are raised when all of them are done, so an update ends in one of three ways: at
the first vector that is refused, at a count that is too large, or well.

What single writes and counts keep, everything that is made of them keeps: an update,
an item, a pass, whether or not it runs to its end.
-/

import RecursiveBayes.Proofs.Network.Counters

open RecursiveBayes.Action

namespace RecursiveBayes

variable {α : Type}

namespace Network

/-! ### Writes -/

theorem runOn_writeVector (index : Nat) (entry : Span × ValueVector α) (workspace : Workspace α) :
    runOn (writeVector index entry) workspace =
      match workspace.chart.slotFor index entry.1 entry.2 with
      | .error fault => (.error (.fault fault), workspace)
      | .ok slot =>
        (.ok (), { workspace with chart := workspace.chart.write index slot entry.2 }) := rfl

theorem runOn_writeVector_of_ok {workspace : Workspace α} {index : Nat}
    {entry : Span × ValueVector α}
    {slot : VariableTable.Slot workspace.chart.sequenceLength}
    (accepted : workspace.chart.slotFor index entry.1 entry.2 = .ok slot) :
    runOn (writeVector index entry) workspace =
      (.ok (), { workspace with chart := workspace.chart.write index slot entry.2 }) := by
  rw [runOn_writeVector, accepted]

theorem runOn_writeVector_of_error {workspace : Workspace α} {index : Nat} {fault : Fault α}
    {entry : Span × ValueVector α}
    (refused : workspace.chart.slotFor index entry.1 entry.2 = .error fault) :
    runOn (writeVector index entry) workspace = (.error (.fault fault), workspace) := by
  rw [runOn_writeVector, refused]

/-- A run of writes succeeds exactly if the chart has the variable, every vector fits it and every
span lies within the sequence. The induction is on the entries: a write changes neither the length
of the sequence nor the number of values of a variable. -/
theorem writes_eq_ok_iff {index : Nat} {entries : List (Span × ValueVector α)}
    {workspace : Workspace α} :
    (runOn (entries.forM (writeVector index)) workspace).1 = .ok () ↔
      ∀ entry ∈ entries, workspace.chart.cardinality? index = some entry.2.length ∧
        entry.1.Within workspace.chart.sequenceLength := by
  induction entries generalizing workspace with
  | nil => exact ⟨fun _ entry member => absurd member List.not_mem_nil, fun _ => rfl⟩
  | cons entry rest inductionHypothesis =>
    rw [runOn_forM_cons, List.forall_mem_cons, ← InsideChart.exists_slotFor_iff]
    cases accepted : workspace.chart.slotFor index entry.1 entry.2 with
    | error fault =>
      rw [runOn_writeVector_of_error accepted]
      exact ⟨fun absurdly => (nomatch absurdly), fun both => (nomatch both.1)⟩
    | ok slot =>
      rw [runOn_writeVector_of_ok accepted]
      refine inductionHypothesis.trans ?_
      rw [InsideChart.cardinality?_eq, InsideChart.cardinalities_write,
        ← InsideChart.cardinality?_eq]
      exact ⟨fun others => ⟨⟨slot, rfl⟩, others⟩, fun both => both.2⟩

/-! ### Updates -/

variable {index : Nat} {spans : List Span} {vectors : List (ValueVector α)}
  {workspace after : Workspace α}

/-- An update whose vectors are all written is counted if the counts stay words, and aborts if they
do not. -/
theorem runOn_updateInsideChart_of_written (lengths : spans.length = vectors.length)
    (written : runOn ((spans.zip vectors).forM (writeVector index)) workspace = (.ok (), after)) :
    runOn (updateInsideChart index spans vectors) workspace =
      if (after.statistics.afterUpdate spans).Words then
        (.ok (), { after with statistics := after.statistics.afterUpdate spans })
      else
        (.error (.abort .overflow),
          { after with statistics := after.statistics.untilOverflow spans }) := by
  have accepted := writes_eq_ok_iff.mp (congrArg Prod.fst written)
  have ordered : ∀ span ∈ spans, span.start ≤ span.stop := by
    rw [← List.map_fst_zip (Nat.le_of_eq lengths), List.forall_mem_map]
    exact fun entry member => Nat.le_of_lt (accepted entry member).2.1
  rw [updateInsideChart, if_pos lengths, runOn_bind_of_ok written, runOn_countUpdate ordered]

/-- An update stops at the first vector that is refused. -/
theorem runOn_updateInsideChart_of_refused {cause : Failure α}
    (lengths : spans.length = vectors.length)
    (refused : runOn ((spans.zip vectors).forM (writeVector index)) workspace =
      (.error cause, after)) :
    runOn (updateInsideChart index spans vectors) workspace = (.error cause, after) := by
  rw [updateInsideChart, if_pos lengths, runOn_bind_of_error refused]

theorem runOn_updateInsideChart_of_lengths (lengths : spans.length ≠ vectors.length) :
    runOn (updateInsideChart index spans vectors) workspace =
      (.error (.fault (.malformed (.valueCount vectors.length spans.length))), workspace) := by
  rw [updateInsideChart, if_neg lengths]
  rfl

/-! ### What is kept -/

/-- Something that single writes and counts keep. -/
structure Kept (holds : Workspace α → Prop) : Prop where
  writeVector : ∀ index entry state, holds state → holds (runOn (writeVector index entry) state).2
  countUpdate : ∀ spans state, holds state → holds (runOn (countUpdate spans) state).2

/-- What does not change when a count is raised, counting keeps, also where it aborts. -/
theorem count_keeps {holds : Workspace α → Prop} {change : Statistics → Checked Statistics}
    (changes : ∀ (state : Workspace α) (statistics : Statistics), holds state →
      change state.statistics = .ok statistics → holds { state with statistics := statistics })
    (state : Workspace α) (start : holds state) : holds (runOn (count change) state).2 := by
  rw [runOn_count]
  cases counted : change state.statistics with
  | error cause => exact start
  | ok statistics => exact changes state statistics start counted

/-- What is kept when any of the three counts is raised. -/
theorem countUpdate_keeps {holds : Workspace α → Prop} {spans : List Span}
    (raised : ∀ (state : Workspace α) (statistics : Statistics), holds state →
      (state.statistics.countItem = .ok statistics ∨
        state.statistics.countVectors spans.length = .ok statistics ∨
        state.statistics.countSplits spans = .ok statistics) →
      holds { state with statistics := statistics })
    (state : Workspace α) (start : holds state) : holds (runOn (countUpdate spans) state).2 := by
  refine runOn_bind_keeps holds (count_keeps ?_ state start) fun _ after first =>
    runOn_bind_keeps holds (count_keeps ?_ after first) fun _ last second =>
      count_keeps ?_ last second
  · exact fun state statistics kept counted => raised state statistics kept (.inl counted)
  · exact fun state statistics kept counted => raised state statistics kept (.inr (.inl counted))
  · exact fun state statistics kept counted => raised state statistics kept (.inr (.inr counted))

/-- What does not depend on the counts and is kept by single writes. -/
theorem Kept.of_ignoresCounts {holds : Workspace α → Prop}
    (ignoresCounts : ∀ state statistics, holds state →
      holds { state with statistics := statistics })
    (writes : ∀ (index : Nat) (entry : Span × ValueVector α) (state : Workspace α)
      (slot : VariableTable.Slot state.chart.sequenceLength),
      state.chart.slotFor index entry.1 entry.2 = .ok slot → holds state →
        holds { state with chart := state.chart.write index slot entry.2 }) : Kept holds where
  writeVector index entry state start := by
    rw [runOn_writeVector]
    cases accepted : state.chart.slotFor index entry.1 entry.2 with
    | error fault => exact start
    | ok slot => exact writes index entry state slot accepted start
  countUpdate _ := countUpdate_keeps fun state statistics kept _ =>
    ignoresCounts state statistics kept

/-- What the writes of an update keep, the update keeps, if it does not depend on the counts. -/
theorem updateInsideChart_keeps (holds : Workspace α → Prop)
    (ignoresCounts : ∀ state statistics, holds state →
      holds { state with statistics := statistics })
    (start : holds workspace)
    (written : holds (runOn ((spans.zip vectors).forM (writeVector index)) workspace).2) :
    holds (runOn (updateInsideChart index spans vectors) workspace).2 := by
  rw [updateInsideChart]
  split
  · exact runOn_bind_keeps holds written fun _ => countUpdate_keeps fun state statistics kept _ =>
      ignoresCounts state statistics kept
  · exact start

namespace Kept

variable {holds : Workspace α → Prop} (kept : Kept holds)
include kept

theorem writes (entries : List (Span × ValueVector α)) (start : holds workspace) :
    holds (runOn (entries.forM (Network.writeVector index)) workspace).2 :=
  runOn_forM_keeps holds (fun entry _ => kept.writeVector index entry) start

theorem updateInsideChart (start : holds workspace) :
    holds (runOn (Network.updateInsideChart index spans vectors) workspace).2 := by
  rw [Network.updateInsideChart]
  split
  · exact runOn_bind_keeps holds (kept.writes _ start) fun _ => kept.countUpdate spans
  · exact start

variable [Scalar α] {network : Network α}

theorem perform (item : WorkItem Span) (start : holds workspace) :
    holds (runOn (network.protocol.perform item) workspace).2 := by
  refine runOn_bind_keeps holds ?_ fun vectors _ => kept.updateInsideChart
  exact start

theorem performAll (items : List (WorkItem Span)) (start : holds workspace) :
    holds (runOn (items.forM network.protocol.perform) workspace).2 :=
  runOn_forM_keeps holds (fun item _ _ => kept.perform item) start

end Kept

/-- The counts of a workspace stay words, also where an update aborts. -/
theorem kept_words : Kept fun state : Workspace α => state.statistics.Words where
  writeVector index entry state start := by
    rw [runOn_writeVector]
    split <;> exact start
  countUpdate spans := by
    refine countUpdate_keeps fun state statistics words raised => ?_
    rcases raised with items | vectors | points
    · exact words.countItem items
    · exact words.countVectors vectors
    · exact words.countSplits points

end Network

end RecursiveBayes
