/-
This file says what a cell computes from a chart. It reads the parts of a span in
a fixed order and stops at the first obstacle: a position without an observation,
or a part that no one has written. Where there is no obstacle, the result is the
explanation of the span from the vectors that the chart holds.

The vectors that are read have to fit the axes they are read for. In a chart of a
network they do, so an obstacle is the only way in which a cell fails on a span that
is not reversed, if its vector fits into memory.
-/

import RecursiveBayes.Cell.Inside
import RecursiveBayes.Proofs.Network.Recursion

namespace RecursiveBayes

variable {α : Type}

/-! ### Entries -/

namespace InsideChart

/-- The vector of a variable at a span, and no entries where none was written. -/
def vectorAt (chart : InsideChart α) (index : Nat) (span : Span) : ValueVector α :=
  (chart.get? index span).getD []

/-- The failure to read a vector that was not written. -/
def missing? (chart : InsideChart α) (index : Nat) (span : Span) : Option (Failure α) :=
  match chart.get? index span with
  | none => some (.fault (.unscheduled index span))
  | some _ => none

theorem require_eq (chart : InsideChart α) (index : Nat) (span : Span) :
    (liftM (chart.require index span) : Outcome α (ValueVector α)) =
      succeedUnless (chart.missing? index span) (chart.vectorAt index span) := by
  rw [require, missing?, vectorAt]
  cases chart.get? index span <;> rfl

theorem missing?_eq_none_iff {chart : InsideChart α} {index : Nat} {span : Span} :
    chart.missing? index span = none ↔ (chart.get? index span).isSome := by
  rw [missing?]
  cases chart.get? index span with
  | none => exact ⟨fun found => (nomatch found), fun found => (nomatch found)⟩
  | some vector => exact ⟨fun _ => rfl, fun _ => rfl⟩

end InsideChart

namespace TerminalChart

/-- The failure to read an observation behind the end of the sequence. -/
def missing? (terminals : TerminalChart) (position : Nat) : Option (Failure α) :=
  match terminals.symbols[position]? with
  | none => some (.fault (.invalidLocation ⟨position, position + 1⟩ terminals.length))
  | some _ => none

theorem symbol_eq (terminals : TerminalChart) {position : Nat}
    (word : position + 1 < Word.limit) :
    (terminals.symbol position : Outcome α (Option Nat)) =
      succeedUnless (terminals.missing? position) (terminals.symbols[position]?.getD none) := by
  rw [symbol, Word.add_eq_ok word, missing?]
  cases terminals.symbols[position]? <;> rfl

theorem missing?_eq_none_iff {terminals : TerminalChart} {position : Nat} :
    (terminals.missing? position : Option (Failure α)) = none ↔ position < terminals.length := by
  rw [missing?]
  cases found : terminals.symbols[position]? with
  | none =>
    have outside := List.getElem?_eq_none_iff.mp found
    exact ⟨fun found => (nomatch found), fun inside => absurd inside (Nat.not_lt.mpr outside)⟩
  | some observation =>
    obtain ⟨inside, _⟩ := List.getElem?_eq_some_iff.mp found
    exact ⟨fun _ => inside, fun _ => rfl⟩

end TerminalChart

/-! ### Binary transitions -/

variable [Scalar α]

namespace BinaryTransition

/-- Every vector that a chart holds for a child of a transition fits the axis of the child. -/
def ReadsFitting (transition : BinaryTransition α) (owner : Nat) (chart : InsideChart α) : Prop :=
  (∀ span vector, chart.get? (transition.leftIndex owner) span = some vector →
    vector.length = transition.leftCardinality) ∧
  (∀ span vector, chart.get? (transition.rightIndex owner) span = some vector →
    vector.length = transition.rightCardinality)

/-- The failure to read the two parts of a span, the left one first. -/
def obstacle? (transition : BinaryTransition α) (owner : Nat) (chart : InsideChart α)
    (parts : Span × Span) : Option (Failure α) :=
  (chart.missing? (transition.leftIndex owner) parts.1).or
    (chart.missing? (transition.rightIndex owner) parts.2)

variable {transition : BinaryTransition α} {owner : Nat} {chart : InsideChart α}

theorem addSplit_eq (fitting : transition.ReadsFitting owner chart) (sum : ValueVector α)
    (parts : Span × Span) :
    transition.addSplit owner chart sum parts =
      succeedUnless (transition.obstacle? owner chart parts)
        (transition.explainParts owner chart.vectorAt sum parts) := by
  rw [addSplit, InsideChart.require_eq, InsideChart.require_eq, obstacle?]
  cases left : chart.get? (transition.leftIndex owner) parts.1 with
  | none =>
    simp only [InsideChart.missing?, left]
    rfl
  | some leftVector =>
    cases right : chart.get? (transition.rightIndex owner) parts.2 with
    | none =>
      simp only [InsideChart.missing?, left, right]
      rfl
    | some rightVector =>
      have contracted := transition.expectation_eq_ok (fitting.1 _ _ left) (fitting.2 _ _ right)
      simp only [InsideChart.missing?, InsideChart.vectorAt, left, right, Option.getD_some,
        explainParts]
      show (do
        let contribution ← liftM (transition.expectation leftVector rightVector)
        pure (sum.add contribution) : Outcome α (ValueVector α)) = _
      rw [contracted]
      rfl

/-- A binary transition fails at the first part that is missing, by ascending split point. -/
theorem inside_eq (fitting : transition.ReadsFitting owner chart) {span : Span}
    (word : span.start + 1 < Word.limit) (cardinality : Nat) :
    transition.inside owner span chart cardinality =
      succeedUnless
        ((span.splitPoints.map span.splitAt).findSome? (transition.obstacle? owner chart))
        (transition.explain owner cardinality (span.splitPoints.map span.splitAt)
          chart.vectorAt) := by
  rw [inside, Word.add_eq_ok word, Span.foldSplits_eq_foldlM]
  exact foldlM_eq_succeedUnless (fun sum parts _ => addSplit_eq fitting sum parts) _

end BinaryTransition

/-! ### Cells -/

namespace Cell

/-- Every vector that a chart holds for a child of a cell fits the axis of the child. -/
def ReadsFitting (cell : Cell α) (owner : Nat) (chart : InsideChart α) : Prop :=
  ∀ transition, Transition.binary transition ∈ cell.transitions →
    transition.ReadsFitting owner chart

/-- The first failure to read what a choice needs. A choice that is never taken needs nothing. -/
def obstacle? (owner : Nat) (span : Span) (terminals : TerminalChart) (chart : InsideChart α)
    (choice : Transition α × α) : Option (Failure α) :=
  if Scalar.isZero choice.2 then
    none
  else
    match choice.1 with
    | .terminal _ =>
      if span.stop - span.start = 1 then terminals.missing? span.start else none
    | .binary transition =>
      (span.splitPoints.map span.splitAt).findSome? (transition.obstacle? owner chart)

variable {cell : Cell α} {owner : Nat} {span : Span} {terminals : TerminalChart}
  {chart : InsideChart α}

theorem addTransition_eq (fitting : cell.ReadsFitting owner chart)
    (ordered : span.start ≤ span.stop) (word : span.stop < Word.limit)
    (values : ValueVector α) {choice : Transition α × α} (member : choice ∈ cell.choices) :
    cell.addTransition owner span terminals chart values choice =
      succeedUnless (obstacle? owner span terminals chart choice)
        (cell.explainBy owner (span.analysis terminals) chart.vectorAt values choice) := by
  obtain ⟨transition, action⟩ := choice
  have length : span.length = .ok (span.stop - span.start) := Word.sub_eq_ok ordered
  rw [addTransition, obstacle?, explainBy, length]
  -- Both sides pass over a choice that is never taken before they look at its transition.
  split
  · rfl
  · cases transition with
    | terminal transition =>
      show (if span.stop - span.start = 1 then _ else _) = _
      by_cases single : span.stop - span.start = 1
      · simp only [single, if_true, Span.analysis]
        rw [TerminalChart.symbol_eq terminals (by omega), TerminalChart.missing?]
        cases terminals.symbols[span.start]? <;> rfl
      · simp only [single, if_false, Span.analysis]
        rfl
    | binary transition =>
      have empty : (span.analysis terminals).parts = [] ↔ ¬1 < span.stop - span.start := by
        rw [Span.analysis, List.map_eq_nil_iff, Span.splitPoints, List.range'_eq_nil_iff,
          Span.splitCount]
        omega
      show (if 1 < span.stop - span.start then _ else _) = _
      by_cases long : 1 < span.stop - span.start
      · simp only [if_pos long, if_neg fun none => empty.mp none long]
        rw [BinaryTransition.inside_eq (fitting transition (List.of_mem_zip member).1) (by omega)]
        cases (span.splitPoints.map span.splitAt).findSome?
          (transition.obstacle? owner chart) <;> rfl
      · have parts : span.splitPoints.map span.splitAt = [] := empty.mpr long
        simp only [if_neg long, if_pos (empty.mpr long), parts]
        rfl

/-- A cell fails at the first obstacle, transition by transition, and otherwise explains the span
by the vectors in the chart. -/
theorem inside_eq (fitting : cell.ReadsFitting owner chart) (ordered : span.start ≤ span.stop)
    (word : span.stop < Word.limit)
    (room : Memory.numberSize * cell.cardinality ≤ Memory.largestObject) :
    cell.inside owner span terminals chart =
      succeedUnless (cell.choices.findSome? (obstacle? owner span terminals chart))
        (cell.explain owner (span.analysis terminals) chart.vectorAt) := by
  rw [inside, ValueVector.allocate, Memory.reserve_eq_ok room]
  show cell.choices.foldlM (cell.addTransition owner span terminals chart) _ = _
  refine foldlM_eq_succeedUnless (fun values choice member => ?_) _
  exact addTransition_eq fitting ordered word values member

/-- The vector of a cell is allocated before anything else is done. -/
theorem inside_of_no_room (large : Memory.largestObject < Memory.numberSize * cell.cardinality) :
    cell.inside owner span terminals chart = .error (.abort .allocation) := by
  rw [inside, ValueVector.allocate, Memory.reserve, if_neg (Nat.not_le.mpr large)]
  rfl

/-- A reversed span has no length. A cell asks for it at the first transition that is chosen at all,
and without such a transition it returns no weight. -/
theorem inside_of_reversed (reversed : span.stop < span.start)
    (room : Memory.numberSize * cell.cardinality ≤ Memory.largestObject) :
    cell.inside owner span terminals chart =
      succeedUnless
        (cell.choices.findSome? fun choice =>
          if Scalar.isZero choice.2 then none else some (.abort .overflow))
        (ValueVector.zeros cell.cardinality) := by
  have length : span.length = .error .overflow := if_neg (Nat.not_le.mpr reversed)
  rw [inside, ValueVector.allocate, Memory.reserve_eq_ok room]
  show cell.choices.foldlM (cell.addTransition owner span terminals chart)
    (ValueVector.zeros cell.cardinality) = _
  have steps (values : ValueVector α) (choice : Transition α × α) :
      cell.addTransition owner span terminals chart values choice =
        succeedUnless (if Scalar.isZero choice.2 then none else some (.abort .overflow)) values := by
    rw [addTransition, length]
    split <;> rfl
  rw [foldlM_eq_succeedUnless fun values choice _ => steps values choice, List.foldl_fixed]

end Cell

end RecursiveBayes
