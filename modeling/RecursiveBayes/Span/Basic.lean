/-
This file holds the half-open spans `[start, stop)` of positions in a sequence,
their order and their written form. A span is any pair of positions: nothing
forces its start to be before its stop, so the length and the split points of a
span are checked operations.
-/

import RecursiveBayes.Failure.Abort

namespace RecursiveBayes

/-- The positions from `start` up to, and not including, `stop`. -/
structure Span where
  start : Nat
  stop : Nat
  deriving DecidableEq

namespace Span

/-- The number of positions of a span. A reversed span has none. -/
def length (span : Span) : Checked Nat :=
  Word.sub span.stop span.start

/-- A span is empty when it stops where it starts, or before. -/
def isEmpty (span : Span) : Bool :=
  span.stop ≤ span.start

/-- A span covers at least one position of a sequence of the given length and none outside. -/
def Within (span : Span) (sequenceLength : Nat) : Prop :=
  span.start < span.stop ∧ span.stop ≤ sequenceLength

instance (span : Span) (sequenceLength : Nat) : Decidable (span.Within sequenceLength) :=
  inferInstanceAs (Decidable (_ ∧ _))

/-! ### Splitting -/

/-- The two parts of a span at a split point. -/
def splitAt (span : Span) (point : Nat) : Span × Span :=
  (⟨span.start, point⟩, ⟨point, span.stop⟩)

/-- The number of split points strictly inside a span. -/
def splitCount (span : Span) : Nat :=
  span.stop - (span.start + 1)

/-- The split points strictly inside a span, in ascending order. -/
def splitPoints (span : Span) : List Nat :=
  List.range' (span.start + 1) span.splitCount

/-- The left and right parts of a span for each of its split points, in ascending order of the
split point. The position after the start has to be a word. -/
def splits (span : Span) : Checked (List (Span × Span)) := do
  let _ ← Word.add span.start 1
  return span.splitPoints.map span.splitAt

/-- The left and right parts of a span for each of its split points, if the list of them fits into
memory. -/
def listSplits (span : Span) : Checked (List (Span × Span)) := do
  Memory.reserve span.splitCount Memory.splitSize
  span.splits

/-- Carry a value along `count` split points of a span from `point` on. -/
def carryAlong {m : Type → Type} [Monad m] {β : Type} (span : Span)
    (step : β → Span × Span → m β) : (count point : Nat) → β → m β
  | 0, _, carried => return carried
  | count + 1, point, carried => do
    let next ← step carried (span.splitAt point)
    span.carryAlong step count (point + 1) next

/-- Carry a value along the splits of a span, by ascending split point. The splits are made one
at a time, so a step that fails ends the work on a long span at once. -/
def foldSplits {m : Type → Type} [Monad m] {β : Type} (span : Span)
    (step : β → Span × Span → m β) (start : β) : m β :=
  span.carryAlong step span.splitCount (span.start + 1) start

/-- Carrying a value along some split points is a fold over the list of them. -/
theorem carryAlong_eq_foldlM {m : Type → Type} [Monad m] {β : Type} (span : Span)
    (step : β → Span × Span → m β) (count point : Nat) (carried : β) :
    span.carryAlong step count point carried =
      ((List.range' point count).map span.splitAt).foldlM step carried := by
  induction count generalizing point carried with
  | zero => rfl
  | succ count inductionHypothesis =>
    rw [List.range'_succ, List.map_cons, List.foldlM_cons, carryAlong]
    exact bind_congr fun next => inductionHypothesis (point + 1) next

theorem foldSplits_eq_foldlM {m : Type → Type} [Monad m] {β : Type} (span : Span)
    (step : β → Span × Span → m β) (start : β) :
    span.foldSplits step start = (span.splitPoints.map span.splitAt).foldlM step start :=
  carryAlong_eq_foldlM span step _ _ start

/-- A split point lies strictly between the ends of its span. -/
theorem mem_splitPoints {span : Span} {point : Nat} :
    point ∈ span.splitPoints ↔ span.start < point ∧ point < span.stop := by
  simp only [splitPoints, splitCount, List.mem_range'_1]
  omega

/-! ### Order and text -/

/-- Spans are ordered by their start, and those with one start by their stop. -/
def compare (left right : Span) : Ordering :=
  (Ord.compare left.start right.start).then (Ord.compare left.stop right.stop)

/-- The written form of a span: its ends in parentheses. -/
def render (span : Span) : String :=
  "(" ++ toString span.start ++ ", " ++ toString span.stop ++ ")"

/-- The written form of a span that names its fields. -/
def describe (span : Span) : String :=
  "Span \x7b start: " ++ toString span.start ++ ", end: " ++ toString span.stop ++ " \x7d"

end Span

end RecursiveBayes
