/-
This file holds what an inside pass leaves behind: the observations, the chart of
inside vectors and some counts. A workspace is all the state that a network over
sequences has, and it is read after a pass as well as changed by the next.

The counts are words. They are started afresh with a sequence and grow with every
update of the chart, also of one that was made by hand, so nothing but their size
bounds them: a count that would outgrow a word aborts the run.
-/

import RecursiveBayes.Chart.Inside
import RecursiveBayes.Chart.Terminal

namespace RecursiveBayes

/-- Counts of the work of an inside pass. -/
structure Statistics where
  sequenceLength : Nat := 0
  /-- The number of successful updates of the chart. -/
  workItems : Nat := 0
  /-- The number of vectors that those updates wrote. -/
  cellUpdates : Nat := 0
  /-- The number of split points of the spans at which they wrote. -/
  splitPoints : Nat := 0
  deriving DecidableEq

namespace Statistics

/-- Count one update. -/
def countItem (statistics : Statistics) : Checked Statistics := do
  let workItems ← Word.add statistics.workItems 1
  return { statistics with workItems := workItems }

/-- Count some vectors. -/
def countVectors (statistics : Statistics) (vectors : Nat) : Checked Statistics := do
  let cellUpdates ← Word.add statistics.cellUpdates vectors
  return { statistics with cellUpdates := cellUpdates }

/-- Add the split points of a span to a number of them. A span has one split point less than it has
positions, and the empty span has none. -/
def addSplits (points : Nat) (span : Span) : Checked Nat := do
  let length ← span.length
  Word.add points (length - 1)

/-- Count the split points of some spans. They are added up before they are counted. -/
def countSplits (statistics : Statistics) (spans : List Span) : Checked Statistics := do
  let points ← spans.foldlM addSplits 0
  let splitPoints ← Word.add statistics.splitPoints points
  return { statistics with splitPoints := splitPoints }

end Statistics

/-- The state of a network over sequences. -/
structure Workspace (α : Type) where
  terminals : TerminalChart
  chart : InsideChart α
  statistics : Statistics

/-- The state before the first pass: the empty sequence, no chart and no work. -/
def Workspace.initial {α : Type} : Workspace α :=
  ⟨.empty, .empty, {}⟩

end RecursiveBayes
