/-
This file says which operations return to the caller whatever the history and the
arguments are. Reading the chart always does: every index and span is checked before
anything is computed from it, and a chart that was allocated has room for all of this
arithmetic. Writing the chart and running a pass return as long as the counts are words.

Two operations do not return for other reasons. Inside vectors at a reversed span abort
if the cell chooses any transition at all, because the length of the span is taken before
the span is looked at. The observation at the last word aborts, because the position
after it is taken whether or not it is needed. These are the only exceptions, apart from
cells whose vectors exceed memory.
-/

import RecursiveBayes.Proofs.Network.History

open RecursiveBayes.Action

namespace RecursiveBayes

variable {α : Type}

/-! ### Outcomes that return -/

section Outcomes

variable {β γ : Type}

theorem returned_ok (value : β) : Returned (.ok value : Outcome α β) :=
  fun _ same => (by cases same)

theorem returned_fault (fault : Fault α) : Returned (.error (.fault fault) : Outcome α β) :=
  fun _ same => (by cases same)

theorem returned_succeedUnless_iff {failure? : Option (Failure α)} {value : β} :
    Returned (succeedUnless failure? value) ↔ ∀ cause, failure? ≠ some (.abort cause) := by
  cases failure? with
  | none => exact ⟨fun _ _ same => (by cases same), fun _ => returned_ok value⟩
  | some failure =>
    refine forall_congr' fun cause => not_congr ?_
    rw [succeedUnless, Except.error.injEq, Option.some.injEq]

theorem returned_bind_iff {first : Outcome α β} {next : β → Outcome α γ} :
    Returned (first >>= next) ↔
      Returned first ∧ ∀ value, first = .ok value → Returned (next value) := by
  cases first with
  | error failure =>
    refine ⟨fun returned => ⟨fun cause same => returned cause (by cases same; rfl), ?_⟩, ?_⟩
    · exact fun value same => (by cases same)
    · exact fun both cause same => both.1 cause (by cases same; rfl)
  | ok value =>
    refine ⟨fun returned => ⟨returned_ok value, fun _ same => ?_⟩, fun both => both.2 value rfl⟩
    cases same
    exact returned

/-- A list of requests returns exactly if each request returns that is reached, after all requests
before it succeeded. -/
theorem returned_mapM_iff {items : List γ} {request : γ → Outcome α β} :
    Returned (items.mapM request) ↔
      ∀ done item rest, items = done ++ item :: rest →
        (∀ earlier ∈ done, ∃ result, request earlier = .ok result) → Returned (request item) := by
  induction items with
  | nil =>
    refine ⟨fun _ done item rest same => ?_, fun _ => returned_ok []⟩
    exact absurd same.symm (List.append_ne_nil_of_right_ne_nil _ (List.cons_ne_nil _ _))
  | cons first others inductionHypothesis =>
    have collected : Returned ((first :: others).mapM request) ↔ Returned (request first) ∧
        ∀ result, request first = .ok result → Returned (others.mapM request) := by
      rw [List.mapM_cons, returned_bind_iff]
      refine and_congr_right fun _ => forall₂_congr fun result _ => ?_
      rw [returned_bind_iff]
      exact and_iff_left fun results _ => returned_ok (result :: results)
    rw [collected, inductionHypothesis]
    constructor
    · rintro ⟨here, later⟩ done item rest same succeeded
      cases done with
      | nil =>
        cases same
        exact here
      | cons earliest between =>
        cases same
        obtain ⟨⟨result, ran⟩, between_ran⟩ := List.forall_mem_cons.mp succeeded
        exact later result ran between item rest rfl between_ran
    · intro reached
      refine ⟨reached [] first others rfl fun _ member => absurd member List.not_mem_nil, ?_⟩
      rintro result ran done item rest rfl succeeded
      exact reached (first :: done) item rest rfl
        (List.forall_mem_cons.mpr ⟨⟨result, ran⟩, succeeded⟩)

end Outcomes

/-! ### Observations -/

theorem TerminalChart.missing?_ne_abort (terminals : TerminalChart) (position : Nat)
    (cause : Abort) : (terminals.missing? position : Option (Failure α)) ≠ some (.abort cause) := by
  rw [missing?]
  split <;> exact fun same => (by cases same)

/-- The observation at a position is read, or its lack reported, unless the position is the last
word. -/
theorem TerminalChart.returned_symbol_iff {terminals : TerminalChart} {position : Nat} :
    Returned (terminals.symbol position : Outcome α (Option Nat)) ↔
      position + 1 < Word.limit := by
  constructor
  · intro returned
    by_contra last
    refine returned .overflow ?_
    rw [symbol, Word.add, Word.checked, if_neg last]
    rfl
  · intro word
    rw [symbol_eq terminals word, returned_succeedUnless_iff]
    exact terminals.missing?_ne_abort position

/-! ### Writes -/

namespace Network

theorem statistics_writes (index : Nat) (entries : List (Span × ValueVector α))
    (workspace : Workspace α) :
    (runOn (entries.forM (writeVector index)) workspace).2.statistics = workspace.statistics := by
  refine runOn_forM_keeps (fun state : Workspace α => state.statistics = workspace.statistics)
    (fun entry _ state same => ?_) rfl
  rw [runOn_writeVector]
  split <;> exact same

/-- No write aborts. -/
theorem returned_writes (index : Nat) (entries : List (Span × ValueVector α))
    (workspace : Workspace α) :
    Returned (runOn (entries.forM (writeVector index)) workspace).1 := by
  induction entries generalizing workspace with
  | nil => exact returned_ok ()
  | cons entry rest inductionHypothesis =>
    rw [runOn_forM_cons]
    cases accepted : workspace.chart.slotFor index entry.1 entry.2 with
    | error fault =>
      rw [runOn_writeVector_of_error accepted]
      exact returned_fault fault
    | ok slot =>
      rw [runOn_writeVector_of_ok accepted]
      exact inductionHypothesis _

/-- An update returns, unless all its vectors are written and a count would be no word. -/
theorem returned_updateInsideChart_iff {index : Nat} {spans : List Span}
    {vectors : List (ValueVector α)} {workspace : Workspace α} :
    Returned (runOn (updateInsideChart index spans vectors) workspace).1 ↔
      (spans.length = vectors.length →
        (∀ entry ∈ spans.zip vectors, workspace.chart.cardinality? index = some entry.2.length ∧
          entry.1.Within workspace.chart.sequenceLength) →
        (workspace.statistics.afterUpdate spans).Words) := by
  by_cases lengths : spans.length = vectors.length
  · rw [imp_iff_right lengths, ← writes_eq_ok_iff]
    have kept : (runOn ((spans.zip vectors).forM (writeVector index)) workspace).2.statistics =
        workspace.statistics := statistics_writes index (spans.zip vectors) workspace
    have written := returned_writes index (spans.zip vectors) workspace
    rcases ran : runOn ((spans.zip vectors).forM (writeVector index)) workspace with
      ⟨outcome, after⟩
    rw [ran] at kept written
    cases outcome with
    | error failure =>
      rw [runOn_updateInsideChart_of_refused lengths ran]
      exact iff_of_true (fun cause same => written cause (by cases same; rfl))
        fun absurdly => (nomatch absurdly)
    | ok _ =>
      rw [runOn_updateInsideChart_of_written lengths ran, kept, imp_iff_right rfl]
      by_cases words : (workspace.statistics.afterUpdate spans).Words
      · rw [if_pos words]
        exact iff_of_true (returned_ok ()) words
      · rw [if_neg words]
        exact iff_of_false (fun returned => returned .overflow rfl) words
  · rw [runOn_updateInsideChart_of_lengths lengths]
    exact iff_of_true (returned_fault _) fun same => absurd same lengths

end Network

variable [Scalar α]

/-! ### Inside vectors -/

theorem Cell.obstacle?_ne_abort (owner : Nat) (span : Span) (terminals : TerminalChart)
    (chart : InsideChart α) (choice : Transition α × α) (cause : Abort) :
    obstacle? owner span terminals chart choice ≠ some (.abort cause) := by
  have present (index : Nat) (part : Span) : chart.missing? index part ≠ some (.abort cause) := by
    rw [InsideChart.missing?]
    split <;> exact fun same => (by cases same)
  rw [obstacle?]
  split
  · exact fun same => (by cases same)
  · cases choice.1 with
    | terminal transition =>
      simp only
      split
      · exact terminals.missing?_ne_abort span.start cause
      · exact fun same => (by cases same)
    | binary transition =>
      intro found
      obtain ⟨parts, _, failed⟩ := List.exists_of_findSome?_eq_some found
      rcases Option.or_eq_some_iff.mp failed with left | ⟨_, right⟩
      · exact present _ _ left
      · exact present _ _ right

/-- A cell returns for a reversed span exactly if no transition of it is ever chosen: the first that
is chosen takes the length of the span. -/
theorem Cell.returned_inside_of_reversed_iff {cell : Cell α} {owner : Nat} {span : Span}
    {terminals : TerminalChart} {chart : InsideChart α} (reversed : span.stop < span.start)
    (room : Memory.numberSize * cell.cardinality ≤ Memory.largestObject) :
    Returned (cell.inside owner span terminals chart) ↔
      ∀ choice ∈ cell.choices, Scalar.isZero choice.2 = true := by
  rw [inside_of_reversed reversed room, returned_succeedUnless_iff]
  constructor
  · intro returned
    have free : cell.choices.findSome? (fun choice =>
        if Scalar.isZero choice.2 then none else some (Failure.abort (α := α) .overflow)) =
          none := by
      by_contra aborts
      obtain ⟨failure, found⟩ := Option.ne_none_iff_exists'.mp aborts
      obtain ⟨choice, _, failed⟩ := List.exists_of_findSome?_eq_some found
      obtain ⟨_, same⟩ := Option.ite_none_left_eq_some.mp failed
      exact returned .overflow (found.trans same.symm)
    intro choice member
    by_contra chosen
    cases (if_neg chosen).symm.trans (List.findSome?_eq_none_iff.mp free choice member)
  · intro never cause found
    obtain ⟨choice, member, failed⟩ := List.exists_of_findSome?_eq_some found
    exact (Option.ite_none_left_eq_some.mp failed).1 (never choice member)

/-- A cell returns for a span, if its vector fits into memory, and if the span is not reversed or no
transition is ever chosen. -/
theorem Cell.returned_inside_iff {cell : Cell α} {owner : Nat} {span : Span}
    (terminals : TerminalChart) {chart : InsideChart α} (fitting : cell.ReadsFitting owner chart)
    (word : span.stop < Word.limit) :
    Returned (cell.inside owner span terminals chart) ↔
      Memory.numberSize * cell.cardinality ≤ Memory.largestObject ∧
        (span.stop < span.start → ∀ choice ∈ cell.choices, Scalar.isZero choice.2 = true) := by
  by_cases room : Memory.numberSize * cell.cardinality ≤ Memory.largestObject
  · rw [and_iff_right room]
    by_cases reversed : span.stop < span.start
    · rw [imp_iff_right reversed]
      exact returned_inside_of_reversed_iff reversed room
    · rw [inside_eq fitting (Nat.not_lt.mp reversed) word room, returned_succeedUnless_iff]
      refine ⟨fun _ absurdly => absurd absurdly reversed, fun _ cause found => ?_⟩
      obtain ⟨choice, _, failed⟩ := List.exists_of_findSome?_eq_some found
      exact obstacle?_ne_abort owner span terminals chart choice cause failed
  · refine ⟨fun returned => ?_, fun both => absurd both.1 room⟩
    exact absurd (inside_of_no_room (Nat.not_le.mp room)) (returned .allocation)

namespace Network

variable {network : Network α} {workspace : Workspace α}

/-- Every vector that a cell reads from a chart fits the axis it is read for, whatever the history
was. -/
theorem Consistent.readsFitting (consistent : network.Consistent workspace) {index : Nat}
    {cell : Cell α} (found : network.cells[index]? = some cell) :
    cell.ReadsFitting index workspace.chart := by
  obtain ⟨_, nothing⟩ | ⟨cardinalities, _⟩ := consistent.loaded
  · have unread (child : Nat) (span : Span) (vector : ValueVector α)
        (read : workspace.chart.get? child span = some vector) : False := by
      have known := InsideChart.cardinality?_of_get? read
      rw [InsideChart.cardinality?_eq, nothing] at known
      cases known
    exact fun transition _ => ⟨fun span vector read => (unread _ span vector read).elim,
      fun span vector read => (unread _ span vector read).elim⟩
  · exact Shaped.readsFitting ⟨consistent.sequenceLength, cardinalities⟩ found

/-- The numbers that are computed to find the vector of a span in a table are words, and they stay
within the arrays of the table. -/
theorem Consistent.slot_words (consistent : network.Consistent workspace)
    {table : VariableTable α workspace.chart.sequenceLength}
    (member : table ∈ workspace.chart.tables)
    (slot : VariableTable.Slot workspace.chart.sequenceLength) :
    slot.val < table.populated.size ∧ (table.range slot).2 ≤ table.values.size ∧
      (table.range slot).2 < Word.limit := by
  have inside := (table.range_le_size slot).2
  refine ⟨table.slot_lt_size slot, inside, ?_⟩
  have known : table.cardinality ∈ workspace.chart.cardinalities := List.mem_map_of_mem member
  obtain ⟨_, nothing⟩ | ⟨cardinalities, _, fits⟩ := consistent.loaded
  · rw [nothing] at known
    cases known
  · rw [cardinalities] at known
    obtain ⟨cell, cellMember, same⟩ := List.mem_map.mp known
    have room := fits.memory cell cellMember
    rw [← consistent.sequenceLength, same, ← table.size_values, Memory.numberSize,
      Memory.largestObject] at room
    rw [Word.limit]
    omega

/-! ### Reachable workspaces -/

/-- In every workspace that a history leads to, reading the chart returns, whatever its arguments
are, and all numbers that are computed from a span to find an entry are words and lie within the
arrays. An update that is well-formed and a pass return exactly if the counts stay words, and an
update that is not well-formed always returns. Inside vectors are returned up to a span that is
reversed, if the cell chooses any transition, and an observation is returned for every position but
the last word. -/
theorem reachable_operations_return (network : Network α) {workspace : Workspace α}
    (reachable : network.Reachable workspace) :
    (∀ index spans, (∀ span ∈ spans, span.start < Word.limit ∧ span.stop < Word.limit) →
      (Returned (network.computeInside workspace index spans) ↔
        ∀ cell, network.cells[index]? = some cell →
          ∀ done span rest, spans = done ++ span :: rest →
            (∀ earlier ∈ done, ∃ vector,
              cell.inside index earlier workspace.terminals workspace.chart = .ok vector) →
            Memory.numberSize * cell.cardinality ≤ Memory.largestObject ∧
              (span.stop < span.start →
                ∀ choice ∈ cell.choices, Scalar.isZero choice.2 = true))) ∧
    (∀ index spans vectors,
      Returned (runOn (updateInsideChart index spans vectors) workspace).1 ↔
        (spans.length = vectors.length →
          (∀ entry ∈ spans.zip vectors, workspace.chart.cardinality? index = some entry.2.length ∧
            entry.1.Within workspace.chart.sequenceLength) →
          (workspace.statistics.afterUpdate spans).Words)) ∧
    (Returned (runOn network.runInside workspace).1 ↔
      (network.countPass workspace.terminals.length workspace.statistics).Words) ∧
    (∀ index span,
      (workspace.chart.get? index span = none ∧
        workspace.chart.require index span = .error (.unscheduled index span)) ∨
      (∃ vector, workspace.chart.get? index span = some vector ∧
        workspace.chart.require index span = .ok vector ∧
        workspace.chart.cardinality? index = some vector.length ∧
        span.Within workspace.chart.sequenceLength)) ∧
    (∀ table ∈ workspace.chart.tables, ∀ span slot,
      VariableTable.slot? workspace.chart.sequenceLength span = some slot →
        slot.val < table.populated.size ∧ (table.range slot).2 ≤ table.values.size ∧
          (table.range slot).2 < Word.limit) ∧
    (∀ position, Returned (workspace.terminals.symbol position : Outcome α (Option Nat)) ↔
      position + 1 < Word.limit) := by
  refine ⟨fun index spans words => ?_, fun _ _ _ => returned_updateInsideChart_iff, ?_,
    fun index span => ?_,
    fun table member span slot _ => reachable.consistent.slot_words member slot,
    fun position => TerminalChart.returned_symbol_iff⟩
  · rw [computeInside]
    cases found : network.cells[index]? with
    | none =>
      exact ⟨fun _ cell absurdly => (by cases absurdly), fun _ => returned_fault _⟩
    | some cell =>
      have returns {done rest : List Span} {span : Span} (parts : spans = done ++ span :: rest) :=
        Cell.returned_inside_iff workspace.terminals
          (reachable.consistent.readsFitting found)
          (words span (parts ▸ List.mem_append_right done List.mem_cons_self)).2
      rw [returned_mapM_iff]
      constructor
      · intro reached other same done span rest parts succeeded
        cases same
        exact (returns parts).mp (reached done span rest parts succeeded)
      · intro reached done span rest parts succeeded
        exact (returns parts).mpr (reached cell rfl done span rest parts succeeded)
  · by_cases isEmpty : workspace.terminals.length = 0
    · rw [runOn_runInside_of_empty isEmpty, isEmpty, countPass_of_empty]
      exact iff_of_true (returned_fault _) reachable.consistent.words
    · obtain ⟨shaped, _, fits⟩ := reachable.consistent.shaped isEmpty
      refine ⟨fun returned => ?_, fun words => ?_⟩
      · by_contra tooLarge
        exact returned .overflow (runOn_runInside_of_overflow rfl shaped fits.memory
          reachable.consistent.words tooLarge)
      · obtain ⟨chart, ran, _⟩ := runOn_runInside_of_shaped rfl shaped fits.memory isEmpty words
        rw [ran]
        exact returned_ok _
  · rw [InsideChart.require]
    cases read : workspace.chart.get? index span with
    | none => exact Or.inl ⟨rfl, rfl⟩
    | some vector =>
      exact Or.inr ⟨vector, rfl, rfl, InsideChart.cardinality?_of_get? read,
        InsideChart.within_of_get? read⟩

/-- The small network after a pass over two symbols. -/
def passed : Workspace ℚ :=
  (runOn ((Call.insideObserved ⟨[some 0, some 1]⟩).effect specimen) .initial).2

/-- After a pass, a reversed span and the last word still abort, and another pass returns. -/
theorem specimen_aborts_on_reversed_span :
    (specimen.Reachable passed ∧ ∀ span ∈ [(⟨1, 0⟩ : Span)],
      span.start < Word.limit ∧ span.stop < Word.limit) ∧
    ¬ Returned (specimen.computeInside passed 0 [⟨1, 0⟩]) ∧
    ¬ Returned (passed.terminals.symbol 18446744073709551615 : Outcome ℚ (Option Nat)) ∧
    Returned (runOn specimen.runInside passed).1 := by
  have reachable : specimen.Reachable passed := .call _ .initial (by decide +kernel)
  have words : ∀ span ∈ [(⟨1, 0⟩ : Span)], span.start < Word.limit ∧ span.stop < Word.limit := by
    decide
  obtain ⟨computes, _, runs, _, _, observes⟩ := reachable_operations_return specimen reachable
  refine ⟨⟨reachable, words⟩, fun returned => ?_, fun returned => ?_,
    runs.mpr (by decide +kernel)⟩
  · have never := ((computes 0 _ words).mp returned _ rfl [] ⟨1, 0⟩ [] rfl
      fun _ member => absurd member List.not_mem_nil).2 (by decide)
    exact absurd never (by decide +kernel)
  · exact absurd ((observes _).mp returned) (by decide)

end Network

end RecursiveBayes
