/-
This file runs the inside pass of a network over sequences. The chart is
allocated anew for each sequence, the spans are worked off by ascending length,
and the vectors for the whole sequence are combined with the prior.

The operations of the pass are available one by one as well. They work on the
chart as it stands, whatever was written into it.
-/

import RecursiveBayes.Cell.Inside
import RecursiveBayes.Network.Basic
import RecursiveBayes.Network.Workspace
import RecursiveBayes.Protocol.Run

namespace RecursiveBayes

namespace Network

variable {α : Type} [Scalar α]

/-! ### Operations -/

/-- All variables apply at every location. -/
def nonTerminals (network : Network α) (spans : List Span) : List Nat :=
  spans.map fun _ => network.cellCount

/-- The spans of the observations by ascending length. -/
def insideSchedule (network : Network α) (workspace : Workspace α) :
    Checked (List (WorkItem Span)) :=
  (SpanSchedule.start workspace.terminals.length network.cellCount).items

/-- The span of the whole sequence, which must not be empty. -/
def rootLocation (workspace : Workspace α) : Built α Span :=
  if workspace.terminals.length = 0 then
    .error (.invalidLocation ⟨0, 0⟩ 0)
  else
    .ok ⟨0, workspace.terminals.length⟩

/-- The inside vectors of one cell at some spans, computed from the chart as it stands. -/
def computeInside (network : Network α) (workspace : Workspace α) (variableIndex : Nat)
    (spans : List Span) : Outcome α (List (ValueVector α)) :=
  match network.cells[variableIndex]? with
  | none => throw (.fault (.malformed (.noSuchCell variableIndex network.cellCount)))
  | some cell => spans.mapM fun span =>
      cell.inside variableIndex span workspace.terminals workspace.chart

/-- Write one vector into the chart, in place. -/
def writeVector (variableIndex : Nat) (entry : Span × ValueVector α) :
    Action α (Workspace α) Unit :=
  ExceptT.mk fun workspace =>
    match workspace.chart.slotFor variableIndex entry.1 entry.2 with
    | .error fault => (.error (.fault fault), workspace)
    | .ok slot =>
      (.ok (), { workspace with chart := workspace.chart.write variableIndex slot entry.2 })

/-- Change the counts. -/
def count (change : Statistics → Checked Statistics) : Action α (Workspace α) Unit := do
  let statistics ← change (← get).statistics
  modify fun workspace => { workspace with statistics := statistics }

/-- Count an update at some spans: the update itself, its vectors, and then the split points of the
spans. What was counted before a count outgrows a word stays counted. -/
def countUpdate (spans : List Span) : Action α (Workspace α) Unit := do
  count Statistics.countItem
  count fun statistics => statistics.countVectors spans.length
  count fun statistics => statistics.countSplits spans

/-- Write one vector for each span, in order, and count the update when all are written. -/
def updateInsideChart (variableIndex : Nat) (spans : List Span)
    (vectors : List (ValueVector α)) : Action α (Workspace α) Unit :=
  if spans.length = vectors.length then do
    (spans.zip vectors).forM (writeVector variableIndex)
    countUpdate spans
  else
    throw (.fault (.malformed (.valueCount vectors.length spans.length)))

/-- The operations of a network over sequences. It needs no preparation. -/
def protocol (network : Network α) :
    Protocol α (Workspace α) Span TerminalChart (InsideChart α) where
  nonTerminals := some fun _ spans => return network.nonTerminals spans
  terminalChart := some fun workspace => return workspace.terminals
  insideChart := some fun workspace => return workspace.chart
  updateInsideChart := some updateInsideChart
  insideSchedule := some fun workspace => network.insideSchedule workspace
  rootLocation := some fun workspace => rootLocation workspace
  prior := some fun _ => return network.prior
  computeInside := some network.computeInside
  lookup := InsideChart.get?
  describe := Span.describe

/-! ### Passes -/

/-- Run the pass on the observations and the chart as they stand. -/
def runInside (network : Network α) : Action α (Workspace α) α :=
  network.protocol.run

/-- The network accepts sequences of the given length. -/
def accepts (network : Network α) (length : Nat) : Bool :=
  network.configuration.maximumLength = 0 || length ≤ network.configuration.maximumLength

/-- Replace the observations, the chart and the counts by fresh ones for a sequence. -/
def load (network : Network α) (terminals : TerminalChart) : Action α (Workspace α) Unit := do
  modify fun workspace => { workspace with terminals := terminals }
  let chart ← InsideChart.allocate network.cardinalities terminals.length
  modify fun workspace =>
    { workspace with
      chart := chart
      statistics := { sequenceLength := terminals.length } }

/-- The probability of some observations. A sequence that is too long is refused before anything
changes; the empty sequence has probability zero, because every transition consumes at least one
symbol. -/
def insideObserved (network : Network α) (terminals : TerminalChart) :
    Action α (Workspace α) α :=
  if network.accepts terminals.length then do
    network.load terminals
    if terminals.length = 0 then
      return 0
    else
      network.runInside
  else
    throw (.fault (.sequenceTooLong terminals.length network.configuration.maximumLength))

/-- The probability of a sequence of known symbols. -/
def inside (network : Network α) (symbols : List Nat) : Action α (Workspace α) α :=
  network.insideObserved (.ofSymbols symbols)

end Network

end RecursiveBayes
