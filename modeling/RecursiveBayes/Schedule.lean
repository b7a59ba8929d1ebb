/-
This file holds the order of evaluation of an inside pass. A schedule is a
sequence of work items, each of which asks for the vectors of one variable at
some locations; an item may only read what earlier items have written.

For the spans of a sequence the schedule goes by length: one item for each
variable covers all spans of length one, then one item for each variable all
spans of length two, and so on. A span of one length only depends on shorter
ones, so the items of one length may run in any order.
-/

import RecursiveBayes.Span.Basic

namespace RecursiveBayes

/-- One unit of work: the vectors of one variable at all the given locations. -/
structure WorkItem (Location : Type) where
  variableIndex : Nat
  locations : List Location
  deriving DecidableEq

/-- A position in the order of work by ascending length of spans. -/
structure SpanSchedule where
  sequenceLength : Nat
  variableCount : Nat
  /-- The length of the spans of the next item. -/
  spanLength : Nat
  /-- The variable of the next item. -/
  variableIndex : Nat
  deriving DecidableEq

namespace SpanSchedule

/-- The number of spans of a given length within a sequence. There are none of length zero, and
none that are longer than the sequence. -/
def spanCount (sequenceLength length : Nat) : Nat :=
  if length = 0 then 0 else sequenceLength + 1 - length

/-- The spans of a given length within a sequence, by their start. -/
def spansOfLength (sequenceLength length : Nat) : List Span :=
  (List.range (spanCount sequenceLength length)).map fun start => ⟨start, start + length⟩

/-- The spans of a given length within a sequence, by their start, if the list of them fits into
memory. -/
def listSpans (sequenceLength length : Nat) : Checked (List Span) := do
  Memory.reserve (spanCount sequenceLength length) Memory.spanSize
  return spansOfLength sequenceLength length

/-- The schedule for a sequence and a number of variables, before its first item. -/
def start (sequenceLength variableCount : Nat) : SpanSchedule :=
  ⟨sequenceLength, variableCount, 1, 0⟩

/-- All items were taken, or there are none. -/
def isFinished (schedule : SpanSchedule) : Bool :=
  schedule.variableCount = 0 || schedule.sequenceLength < schedule.spanLength

/-- The position after the next item: the next variable, or the first one and the next length.
The length has to stay a word. -/
def advance (schedule : SpanSchedule) : Checked SpanSchedule :=
  if schedule.variableIndex + 1 = schedule.variableCount then do
    let length ← Word.add schedule.spanLength 1
    return { schedule with spanLength := length, variableIndex := 0 }
  else
    return { schedule with variableIndex := schedule.variableIndex + 1 }

/-- The next item and the position after it, or nothing at the end. The spans of the item have to
fit into memory. -/
def next? (schedule : SpanSchedule) : Checked (Option (WorkItem Span × SpanSchedule)) :=
  if schedule.isFinished then
    return none
  else do
    let spans ← listSpans schedule.sequenceLength schedule.spanLength
    let after ← schedule.advance
    return some (⟨schedule.variableIndex, spans⟩, after)

/-- The number of items that are left, if the computation stays within words. -/
def remaining (schedule : SpanSchedule) : Checked Nat :=
  if schedule.isFinished then
    return 0
  else do
    let lengths ← Word.add (schedule.sequenceLength - schedule.spanLength) 1
    let items ← Word.mul lengths schedule.variableCount
    Word.sub items schedule.variableIndex

/-- The number of items that are left, if memory can hold the list of them and the spans of each
one. The next item has the most spans, so it alone decides whether every item fits. -/
def countItems (schedule : SpanSchedule) : Checked Nat :=
  if schedule.isFinished then
    return 0
  else do
    Memory.reserve (spanCount schedule.sequenceLength schedule.spanLength) Memory.spanSize
    let items ← schedule.remaining
    Memory.reserve items Memory.itemSize
    return items

/-- At most the given number of items from a position on, and the position after them. -/
def take : Nat → SpanSchedule → Checked (List (WorkItem Span) × SpanSchedule)
  | 0, schedule => return ([], schedule)
  | count + 1, schedule => do
    match ← schedule.next? with
    | none => return ([], schedule)
    | some (item, after) =>
      let (items, last) ← take count after
      return (item :: items, last)

/-- All items that are left. -/
def items (schedule : SpanSchedule) : Checked (List (WorkItem Span)) := do
  let (items, _) ← schedule.take (schedule.sequenceLength * schedule.variableCount)
  return items

end SpanSchedule

end RecursiveBayes
