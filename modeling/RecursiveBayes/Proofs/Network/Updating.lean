/-
This file says exactly what an update of the chart does, also when it stops midway.
The vectors are written in the order in which they are listed, up to the first one
that the chart refuses. What was written before stays written, a later vector for a
span replaces an earlier one, and everything else in the workspace is as it was, down
to the numbers and flags in the arrays of the chart; the counts move only if every
vector was written.

The effect of a run of writes depends on the listed vectors alone, so it is described
apart from how the run ends, and the two ends of an update share the description.
-/

import RecursiveBayes.Proofs.Chart.PartialMap
import RecursiveBayes.Proofs.Network.Returning

open RecursiveBayes.Action

namespace RecursiveBayes

variable {α : Type}

/-! ### Listed vectors -/

/-- The last vector that is listed for a span, if one is. -/
def lastListed? (entries : List (Span × ValueVector α)) (span : Span) :
    Option (ValueVector α) :=
  (entries.reverse.find? fun entry => entry.1 = span).map Prod.snd

/-- What is listed later counts before what is listed earlier. -/
theorem lastListed?_append (earlier later : List (Span × ValueVector α)) (span : Span) :
    lastListed? (earlier ++ later) span =
      (lastListed? later span).or (lastListed? earlier span) := by
  rw [lastListed?, List.reverse_append, List.find?_append, Option.map_or]
  rfl

theorem lastListed?_singleton (entry : Span × ValueVector α) (span : Span) :
    lastListed? [entry] span = if span = entry.1 then some entry.2 else none := by
  rw [lastListed?, List.reverse_singleton, List.find?_singleton]
  by_cases same : entry.1 = span
  · rw [if_pos (decide_eq_true same), if_pos same.symm, Option.map_some]
  · rw [if_neg (by simpa using same), if_neg (Ne.symm same), Option.map_none]

/-! ### Charts after an update -/

namespace InsideChart

/-- The number at a place of the array of a variable. -/
def numberAt? (chart : InsideChart α) (index place : Nat) : Option α := do
  let table ← chart.tables[index]?
  table.values[place]?

/-- The flag of a slot of a variable. -/
def flagAt? (chart : InsideChart α) (index slot : Nat) : Option Bool := do
  let table ← chart.tables[index]?
  table.populated[slot]?

/-- The number of the slot of a span within the sequence. -/
def slotNumber (chart : InsideChart α) (span : Span) : Nat :=
  span.start * (chart.sequenceLength + 1) + span.stop

/-- A chart after some vectors of one variable were written into another chart: each listed span
has the last vector that is listed for it, and everything else is as before, in the arrays as
well. -/
structure Updated (before : InsideChart α) (index : Nat)
    (entries : List (Span × ValueVector α)) (after : InsideChart α) : Prop where
  sequenceLength : after.sequenceLength = before.sequenceLength
  cardinalities : after.cardinalities = before.cardinalities
  written : ∀ span, after.get? index span =
    (lastListed? entries span).or (before.get? index span)
  kept : ∀ other span, other ≠ index → after.get? other span = before.get? other span
  numbers : ∀ other place,
    (other = index → ∀ entry ∈ entries,
      ¬ (before.slotNumber entry.1 * entry.2.length ≤ place ∧
        place < (before.slotNumber entry.1 + 1) * entry.2.length)) →
    after.numberAt? other place = before.numberAt? other place
  flags : ∀ other slot,
    (other = index → ∀ entry ∈ entries, slot ≠ before.slotNumber entry.1) →
    after.flagAt? other slot = before.flagAt? other slot

variable {before between after : InsideChart α} {index : Nat}

theorem slotNumbers_eq (same : after.sequenceLength = before.sequenceLength) :
    after.slotNumber = before.slotNumber := by
  funext span
  rw [slotNumber, slotNumber, same]

theorem Updated.none (chart : InsideChart α) (index : Nat) : chart.Updated index [] chart where
  sequenceLength := rfl
  cardinalities := rfl
  written _ := rfl
  kept _ _ _ := rfl
  numbers _ _ _ := rfl
  flags _ _ _ := rfl

theorem Updated.trans {earlier later : List (Span × ValueVector α)}
    (first : before.Updated index earlier between) (second : between.Updated index later after) :
    before.Updated index (earlier ++ later) after where
  sequenceLength := second.sequenceLength.trans first.sequenceLength
  cardinalities := second.cardinalities.trans first.cardinalities
  written span := by
    rw [second.written, first.written, lastListed?_append, Option.or_assoc]
  kept other span different :=
    (second.kept other span different).trans (first.kept other span different)
  numbers other place elsewhere := by
    have unlisted := fun same => List.forall_mem_append.mp (elsewhere same)
    have numbers := second.numbers other place
    rw [slotNumbers_eq first.sequenceLength] at numbers
    rw [numbers fun same => (unlisted same).2,
      first.numbers other place fun same => (unlisted same).1]
  flags other slot elsewhere := by
    have unlisted := fun same => List.forall_mem_append.mp (elsewhere same)
    have flags := second.flags other slot
    rw [slotNumbers_eq first.sequenceLength] at flags
    rw [flags fun same => (unlisted same).2,
      first.flags other slot fun same => (unlisted same).1]

/-- The table that an accepted write is for, and the place of its slot. -/
theorem table_of_slotFor {entry : Span × ValueVector α}
    {slot : VariableTable.Slot before.sequenceLength}
    (accepted : before.slotFor index entry.1 entry.2 = .ok slot) :
    ∃ table, before.tables[index]? = some table ∧ entry.2.length = table.cardinality ∧
      slot.val = before.slotNumber entry.1 := by
  rw [slotFor] at accepted
  cases found : before.tables[index]? with
  | none =>
    rw [found] at accepted
    cases accepted
  | some table =>
    rw [found] at accepted
    obtain ⟨foundSlot, fits⟩ := VariableTable.slotFor_eq_ok accepted
    refine ⟨table, rfl, fits, ?_⟩
    by_cases within : entry.1.Within before.sequenceLength
    · rw [VariableTable.slot?_eq_some within] at foundSlot
      exact (congrArg Fin.val (Option.some.inj foundSlot)).symm
    · rw [VariableTable.slot?_eq_none within] at foundSlot
      cases foundSlot

/-- One accepted write. -/
theorem updated_write {entry : Span × ValueVector α}
    {slot : VariableTable.Slot before.sequenceLength}
    (accepted : before.slotFor index entry.1 entry.2 = .ok slot) :
    before.Updated index [entry] (before.write index slot entry.2) where
  sequenceLength := rfl
  cardinalities := before.cardinalities_write index slot entry.2
  written span := by
    rw [get?_write accepted, lastListed?_singleton]
    by_cases same : span = entry.1
    · rw [if_pos ⟨rfl, same⟩, if_pos same, Option.some_or]
    · rw [if_neg fun both => same both.2, if_neg same, Option.none_or]
  kept other span different := by
    rw [get?_write accepted, if_neg fun both => different both.1]
  numbers other place elsewhere := by
    by_cases same : other = index
    · subst same
      obtain ⟨table, found, fits, number⟩ := table_of_slotFor accepted
      have outside := elsewhere rfl entry List.mem_cons_self
      rw [← number, fits] at outside
      rw [numberAt?, numberAt?, write, List.getElem?_modify_eq, found]
      exact table.getElem?_values_write_of_outside slot fits outside
    · rw [numberAt?, write, List.getElem?_modify_ne _ _ (Ne.symm same)]
      rfl
  flags other place elsewhere := by
    by_cases same : other = index
    · subst same
      obtain ⟨table, found, _, number⟩ := table_of_slotFor accepted
      have different := elsewhere rfl entry List.mem_cons_self
      rw [← number] at different
      rw [flagAt?, flagAt?, write, List.getElem?_modify_eq, found]
      exact Array.getElem?_set_ne (table.slot_lt_size slot) (Ne.symm different)
    · rw [flagAt?, write, List.getElem?_modify_ne _ _ (Ne.symm same)]
      rfl

/-- The fault of a vector for a variable at a span, if the chart does not accept it. -/
def faultOf? (chart : InsideChart α) (index : Nat) (entry : Span × ValueVector α) :
    Option (Fault α) :=
  WriteRequest.fault? chart.cardinalities chart.sequenceLength ⟨index, entry.1, entry.2⟩

/-- A vector has no fault exactly if there is the variable, the vector has one entry for each value
of it, and the span lies within the sequence. -/
theorem faultOf?_eq_none_iff {chart : InsideChart α} {entry : Span × ValueVector α} :
    chart.faultOf? index entry = Option.none ↔
      chart.cardinality? index = some entry.2.length ∧
        entry.1.start < entry.1.stop ∧ entry.1.stop ≤ chart.sequenceLength := by
  rw [cardinality?_eq]
  exact WriteRequest.fault?_eq_none_iff

theorem Updated.faultOf?_eq {entries : List (Span × ValueVector α)}
    (updated : before.Updated index entries after) (entry : Span × ValueVector α) :
    after.faultOf? index entry = before.faultOf? index entry := by
  rw [faultOf?, faultOf?, updated.cardinalities, updated.sequenceLength]

end InsideChart

/-! ### Runs of writes -/

namespace Network

variable {index : Nat}

/-- A vector that has no fault is written. -/
theorem runOn_writeVector_of_accepted {workspace : Workspace α} {entry : Span × ValueVector α}
    (accepted : workspace.chart.faultOf? index entry = none) :
    ∃ chart, workspace.chart.Updated index [entry] chart ∧
      runOn (writeVector index entry) workspace = (.ok (), { workspace with chart := chart }) := by
  have found := workspace.chart.slotFor_of_fault? ⟨index, entry.1, entry.2⟩
  rw [InsideChart.faultOf?] at accepted
  rw [accepted] at found
  obtain ⟨slot, hasSlot⟩ := found
  exact ⟨_, InsideChart.updated_write hasSlot, runOn_writeVector_of_ok hasSlot⟩

/-- A vector that has a fault is refused with it. -/
theorem runOn_writeVector_of_refused {workspace : Workspace α} {entry : Span × ValueVector α}
    {fault : Fault α} (refused : workspace.chart.faultOf? index entry = some fault) :
    runOn (writeVector index entry) workspace = (.error (.fault fault), workspace) := by
  have found := workspace.chart.slotFor_of_fault? ⟨index, entry.1, entry.2⟩
  rw [InsideChart.faultOf?] at refused
  rw [refused] at found
  exact runOn_writeVector_of_error found

/-- A run of writes goes on behind its accepted entries, on the chart into which they were
written. The induction is on the accepted entries; the chart changes with each of them, but not
what it accepts. -/
theorem runOn_writes_append {written : List (Span × ValueVector α)}
    (rest : List (Span × ValueVector α)) {workspace : Workspace α}
    (accepted : ∀ entry ∈ written, workspace.chart.faultOf? index entry = none) :
    ∃ chart, workspace.chart.Updated index written chart ∧
      runOn ((written ++ rest).forM (writeVector index)) workspace =
        runOn (rest.forM (writeVector index)) { workspace with chart := chart } := by
  induction written generalizing workspace with
  | nil => exact ⟨workspace.chart, .none _ _, rfl⟩
  | cons entry others inductionHypothesis =>
    obtain ⟨here, later⟩ := List.forall_mem_cons.mp accepted
    obtain ⟨between, first, ran⟩ := runOn_writeVector_of_accepted here
    obtain ⟨chart, second, ranOthers⟩ :=
      @inductionHypothesis { workspace with chart := between }
        fun other member => (first.faultOf?_eq other).trans (later other member)
    refine ⟨chart, first.trans second, ?_⟩
    rw [List.cons_append, runOn_forM_cons, ran]
    exact ranOthers

/-! ### Updates -/

/-- A vector has a fault if the chart lacks the variable, if the span is not within the sequence, or
if the vector does not fit the variable. An update with more or fewer vectors than spans fails and
changes nothing. Otherwise the vectors are written in order. If the chart accepts all of them, the
update is counted, with a split point less than positions for each of its spans, and succeeds; if a
count would be no word, it aborts, and only the counts before that one have moved. If there is a
first vector with a fault, the update fails with this fault; the vectors before it are written, and
nothing else has changed. -/
theorem updateInsideChart_writes_up_to_first_fault (workspace : Workspace α) (index : Nat)
    (spans : List Span) (vectors : List (ValueVector α)) :
    (∀ entry : Span × ValueVector α, workspace.chart.faultOf? index entry = none ↔
      workspace.chart.cardinality? index = some entry.2.length ∧
        entry.1.start < entry.1.stop ∧ entry.1.stop ≤ workspace.chart.sequenceLength) ∧
    (spans.length ≠ vectors.length →
      runOn (updateInsideChart index spans vectors) workspace =
        (.error (.fault (.malformed (.valueCount vectors.length spans.length))), workspace)) ∧
    (spans.length = vectors.length →
      ((∀ entry ∈ spans.zip vectors, workspace.chart.faultOf? index entry = none) →
        ∃ chart counts, workspace.chart.Updated index (spans.zip vectors) chart ∧
          counts =
            { sequenceLength := workspace.statistics.sequenceLength
              workItems := workspace.statistics.workItems + 1
              cellUpdates := workspace.statistics.cellUpdates + spans.length
              splitPoints := workspace.statistics.splitPoints +
                Sizes.total (spans.map fun span => span.stop - span.start - 1) } ∧
          runOn (updateInsideChart index spans vectors) workspace =
            if counts.Words then
              (.ok (), ⟨workspace.terminals, chart, counts⟩)
            else
              (.error (.abort .overflow),
                ⟨workspace.terminals, chart, workspace.statistics.untilOverflow spans⟩)) ∧
      (∀ (count : Nat) (entry : Span × ValueVector α) (fault : Fault α),
        (spans.zip vectors)[count]? = some entry →
        (∀ earlier ∈ (spans.zip vectors).take count,
          workspace.chart.faultOf? index earlier = none) →
        workspace.chart.faultOf? index entry = some fault →
        ∃ chart, workspace.chart.Updated index ((spans.zip vectors).take count) chart ∧
          runOn (updateInsideChart index spans vectors) workspace =
            (.error (.fault fault), { workspace with chart := chart }))) := by
  refine ⟨fun entry => InsideChart.faultOf?_eq_none_iff, runOn_updateInsideChart_of_lengths,
    fun lengths => ⟨fun accepted => ?_, ?_⟩⟩
  · obtain ⟨chart, updated, ran⟩ := runOn_writes_append [] accepted
    rw [List.append_nil] at ran
    exact ⟨chart, _, updated, rfl, runOn_updateInsideChart_of_written lengths ran⟩
  · intro count entry fault found accepted refused
    obtain ⟨chart, updated, ran⟩ :=
      runOn_writes_append ((spans.zip vectors).drop count) accepted
    refine ⟨chart, updated, runOn_updateInsideChart_of_refused lengths ?_⟩
    rw [List.take_append_drop, List.drop_eq_getElem?_toList_append, found, Option.toList_some,
      List.singleton_append, runOn_forM_cons] at ran
    rw [ran, runOn_writeVector_of_refused ((updated.faultOf?_eq entry).trans refused)]

/-- After a pass of the small network, an update of a span that is listed twice succeeds with the
second vector; the same update with a span behind the end fails, but has written it as well. -/
theorem passed_update_stops_at_third :
    (∃ chart, runOn (updateInsideChart 1 [⟨0, 2⟩, ⟨0, 2⟩] [[5], [6]]) passed =
        (.ok (), ⟨passed.terminals, chart, ⟨2, 5, 8, 4⟩⟩) ∧
      chart.get? 1 ⟨0, 2⟩ = some [6]) ∧
    (∃ chart, runOn (updateInsideChart 1 [⟨0, 2⟩, ⟨0, 2⟩, ⟨0, 3⟩] [[5], [6], [7]]) passed =
        (.error (.fault (.invalidLocation ⟨0, 3⟩ 2)), { passed with chart := chart }) ∧
      chart.get? 1 ⟨0, 2⟩ = some [6] ∧ chart.get? 0 ⟨0, 2⟩ = passed.chart.get? 0 ⟨0, 2⟩) ∧
    runOn (updateInsideChart 1 [⟨0, 2⟩] []) passed =
      (.error (.fault (.malformed (.valueCount 0 1))), passed) := by
  obtain ⟨_, _, twoListed⟩ :=
    updateInsideChart_writes_up_to_first_fault passed 1 [⟨0, 2⟩, ⟨0, 2⟩] [[5], [6]]
  obtain ⟨chart, counts, updated, counted, ran⟩ := (twoListed rfl).1 (by decide +kernel)
  obtain ⟨_, _, threeListed⟩ := updateInsideChart_writes_up_to_first_fault passed 1
    [⟨0, 2⟩, ⟨0, 2⟩, ⟨0, 3⟩] [[5], [6], [7]]
  obtain ⟨stopped, stoppedUpdated, stoppedRan⟩ := (threeListed rfl).2 2 (⟨0, 3⟩, [7])
    (.invalidLocation ⟨0, 3⟩ 2) rfl (by decide +kernel) (by decide +kernel)
  obtain ⟨_, noneListed, _⟩ := updateInsideChart_writes_up_to_first_fault passed 1 [⟨0, 2⟩] []
  have before : passed.statistics = ⟨2, 4, 6, 2⟩ := by decide +kernel
  rw [before] at counted
  have after : counts = ⟨2, 5, 8, 4⟩ := counted
  rw [if_pos (after ▸ by decide), after] at ran
  exact ⟨⟨chart, ran, updated.written ⟨0, 2⟩⟩,
    ⟨stopped, stoppedRan, stoppedUpdated.written ⟨0, 2⟩,
      stoppedUpdated.kept 0 ⟨0, 2⟩ (by decide)⟩, noneListed (by decide)⟩

end Network

end RecursiveBayes
