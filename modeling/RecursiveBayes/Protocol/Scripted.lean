/-
This file holds a network whose operations follow a script: it is said in advance
which operations are provided and what some of them answer, whether or not the
answers fit together. It computes and stores vectors like any other network, and
it keeps a log of the preparations and updates that it was asked for.
-/

import RecursiveBayes.Cell.Inside
import RecursiveBayes.Protocol.Run

namespace RecursiveBayes

/-- What a scripted network provides and answers. -/
structure Script (α : Type) [Scalar α] where
  cells : List (Cell α)
  prior : Prior α
  observations : TerminalChart
  /-- The operations that are provided. -/
  provides : Operation → Bool
  /-- The preparation fails as if it were not provided. -/
  failsInit : Bool
  schedule : List (WorkItem Span)
  root : Span
  /-- The numbers of variables, whatever the locations. -/
  counts : List Nat

/-- The state of a scripted network. -/
structure ScriptState (α : Type) where
  chart : InsideChart α
  /-- The preparations and updates so far, in order. -/
  log : List String

namespace Script

variable {α : Type} [Scalar α]

/-- The state before anything was asked: a blank chart for the observations. -/
def start (script : Script α) : Checked (ScriptState α) := do
  let chart ← InsideChart.allocate (script.cells.map Cell.cardinality) script.observations.length
  return ⟨chart, []⟩

/-- Append a line to the log. -/
def note (line : String) : Action α (ScriptState α) Unit :=
  modify fun state => { state with log := state.log ++ [line] }

/-- Write one vector, in place. -/
def write (variableIndex : Nat) (entry : Span × ValueVector α) :
    Action α (ScriptState α) Unit :=
  ExceptT.mk fun state =>
    match state.chart.slotFor variableIndex entry.1 entry.2 with
    | .error fault => (.error (.fault fault), state)
    | .ok slot => (.ok (), { state with chart := state.chart.write variableIndex slot entry.2 })

/-- Log an update, then write its vectors in turn. -/
def update (variableIndex : Nat) (spans : List Span) (vectors : List (ValueVector α)) :
    Action α (ScriptState α) Unit := do
  note (s!"update {variableIndex} " ++ String.join (spans.map Span.render))
  (spans.zip vectors).forM (write variableIndex)

/-- Compute the vector of one variable at one span. -/
def compute (script : Script α) (state : ScriptState α) (variableIndex : Nat) (span : Span) :
    Outcome α (ValueVector α) :=
  match script.cells[variableIndex]? with
  | none => throw (.abort .indexOutOfRange)
  | some cell => cell.inside variableIndex span script.observations state.chart

/-- Log a preparation. -/
def prepare (script : Script α) : Action α (ScriptState α) Unit := do
  note "init"
  if script.failsInit then
    throw (.fault (.notImplemented .initInside))

/-- The given answer to an operation, if the script provides the operation. -/
def provided {β : Type} (script : Script α) (operation : Operation) (answer : β) : Option β :=
  if script.provides operation then some answer else none

/-- The operations of a scripted network. -/
def protocol (script : Script α) :
    Protocol α (ScriptState α) Span TerminalChart (InsideChart α) where
  nonTerminals := script.provided .nonTerminals fun _ _ => return script.counts
  terminalChart := script.provided .terminalChart fun _ => return script.observations
  insideChart := script.provided .insideChart fun state => return state.chart
  updateInsideChart := script.provided .updateInsideChart update
  insideSchedule := script.provided .insideSchedule fun _ => return script.schedule
  rootLocation := script.provided .rootLocation fun _ => return script.root
  prior := script.provided .prior fun _ => return script.prior
  computeInside := script.provided .computeInside fun state variableIndex spans =>
    spans.mapM (script.compute state variableIndex)
  initInside := script.prepare
  lookup := InsideChart.get?
  describe := Span.describe

end Script

end RecursiveBayes
