/-
This file holds the inside vectors of all variables over the spans of a sequence:
one dense table for each variable, all for the same length. A missing variable is
reported before anything is said about the span.
-/

import RecursiveBayes.Chart.Table
import RecursiveBayes.Sizes

namespace RecursiveBayes

/-- Inside vectors of every variable over every span of a sequence. -/
structure InsideChart (α : Type) where
  sequenceLength : Nat
  tables : List (VariableTable α sequenceLength)
  deriving DecidableEq

namespace InsideChart

variable {α : Type}

/-- The chart of the empty sequence and no variables. -/
def empty : InsideChart α :=
  ⟨0, []⟩

/-- The number of variables. -/
def variableCount (chart : InsideChart α) : Nat :=
  chart.tables.length

/-- The number of values of a variable. -/
def cardinality? (chart : InsideChart α) (variableIndex : Nat) : Option Nat :=
  (chart.tables[variableIndex]?).map VariableTable.cardinality

/-! ### Reading -/

/-- The vector that was written for a variable at a span, if one was. -/
def get? (chart : InsideChart α) (variableIndex : Nat) (span : Span) : Option (ValueVector α) := do
  let table ← chart.tables[variableIndex]?
  table.get? span

/-- The vector that was written for a variable at a span, which the schedule has to have
provided. -/
def require (chart : InsideChart α) (variableIndex : Nat) (span : Span) :
    Built α (ValueVector α) :=
  match chart.get? variableIndex span with
  | some vector => .ok vector
  | none => .error (.unscheduled variableIndex span)

/-- Whether a vector was written for a variable at a span, if there is the variable. -/
def isPopulated? (chart : InsideChart α) (variableIndex : Nat) (span : Span) : Option Bool :=
  (chart.tables[variableIndex]?).map fun table => table.isPopulated span

/-- The vector of a variable of the chart at a span within the sequence. What was never written
reads as zeros. -/
def read (chart : InsideChart α) (variableIndex : Nat) (span : Span) :
    Checked (ValueVector α) :=
  match chart.tables[variableIndex]? with
  | none => .error .indexOutOfRange
  | some table => table.read span

/-- The number of vectors that were written. -/
def count (chart : InsideChart α) : Nat :=
  Sizes.total (chart.tables.map VariableTable.count)

/-- No vector was written. -/
def isEmpty (chart : InsideChart α) : Bool :=
  chart.count = 0

/-- The written vectors of one table with the index of its variable, by start and then stop. -/
def tableEntries {sequenceLength : Nat} (table : VariableTable α sequenceLength)
    (variableIndex : Nat) : List (Nat × Span × ValueVector α) :=
  (List.range sequenceLength).flatMap fun start =>
    (List.range' (start + 1) (sequenceLength - start)).filterMap fun stop =>
      (table.get? ⟨start, stop⟩).map fun vector => (variableIndex, ⟨start, stop⟩, vector)

/-- The written vectors, by variable, start and stop. -/
def entries (chart : InsideChart α) : List (Nat × Span × ValueVector α) :=
  chart.tables.zipIdx.flatMap fun table => tableEntries table.1 table.2

/-! ### Writing -/

/-- The slot for a vector of a variable at a span, in the table of the variable. -/
def slotFor (chart : InsideChart α) (variableIndex : Nat) (span : Span) (vector : ValueVector α) :
    Built α (VariableTable.Slot chart.sequenceLength) :=
  match chart.tables[variableIndex]? with
  | none => malformed (.noSuchVariable variableIndex chart.variableCount)
  | some table => table.slotFor span vector

/-- The chart with a vector in a slot of the table of a variable. -/
def write (chart : InsideChart α) (variableIndex : Nat)
    (slot : VariableTable.Slot chart.sequenceLength) (vector : ValueVector α) :
    InsideChart α where
  sequenceLength := chart.sequenceLength
  tables := chart.tables.modify variableIndex fun table => table.write slot vector

/-- The chart with a vector for a variable at a span, if it has a slot for the vector. -/
def set (chart : InsideChart α) (variableIndex : Nat) (span : Span) (vector : ValueVector α) :
    Built α (InsideChart α) := do
  let slot ← chart.slotFor variableIndex span vector
  return chart.write variableIndex slot vector

/-! ### Allocating -/

/-- The chart in which nothing was written, for variables with the given numbers of values. -/
def blank [Scalar α] (cardinalities : List Nat) (sequenceLength : Nat) : InsideChart α :=
  ⟨sequenceLength, cardinalities.map fun cardinality => .blank cardinality sequenceLength⟩

/-- The blank chart, if there is room for all its tables. -/
def allocate [Scalar α] (cardinalities : List Nat) (sequenceLength : Nat) :
    Checked (InsideChart α) := do
  cardinalities.forM fun cardinality => VariableTable.reserve cardinality sequenceLength
  return blank cardinalities sequenceLength

theorem eq_blank_of_allocate [Scalar α] {cardinalities : List Nat} {sequenceLength : Nat}
    {chart : InsideChart α} (allocated : allocate cardinalities sequenceLength = .ok chart) :
    chart = blank cardinalities sequenceLength := by
  unfold allocate at allocated
  cases room : cardinalities.forM fun cardinality =>
      VariableTable.reserve cardinality sequenceLength with
  | error cause =>
    rw [room] at allocated
    cases allocated
  | ok _ =>
    rw [room] at allocated
    cases allocated
    rfl

end InsideChart

end RecursiveBayes
