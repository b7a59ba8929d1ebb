/-
This file holds the protocol of a recursive Bayesian network and the inside pass
that works with any implementation of it. A network supplies observations, a
chart, a schedule, a root location and a prior, over a state of its own. Every
operation may be missing; the pass reports a missing one the first time it needs
it, except for the preparation, which is optional and does nothing by default.

The pass stops at the first operation that fails. What the operations before it,
and the failing one itself, did to the state stays done, so an action returns the
state also when it fails.
-/

import RecursiveBayes.Prior
import RecursiveBayes.Schedule

namespace RecursiveBayes

/-- A computation that may change a state and may fail. The state outlives a failure. -/
abbrev Action (α σ β : Type) : Type := ExceptT (Failure α) (StateM σ) β

/-- The operations of a network over states of type `σ`. Those that only read are functions of
the state. -/
structure Protocol (α : Type) [Scalar α] (σ Location Observations Chart : Type) where
  /-- The number of variables that apply at each of some locations. -/
  nonTerminals : Option (σ → List Location → Outcome α (List Nat)) := none
  /-- The observations. -/
  terminalChart : Option (σ → Outcome α Observations) := none
  /-- The chart of inside vectors. -/
  insideChart : Option (σ → Outcome α Chart) := none
  /-- Write the vectors of one variable at some locations. -/
  updateInsideChart : Option (Nat → List Location → List (ValueVector α) → Action α σ Unit) := none
  /-- The work of one pass, with the dependencies of every item before it. -/
  insideSchedule : Option (σ → Outcome α (List (WorkItem Location))) := none
  /-- The location of the whole structure. -/
  rootLocation : Option (σ → Outcome α Location) := none
  /-- The prior over root cells and root values. -/
  prior : Option (σ → Outcome α (Prior α)) := none
  /-- The vectors of one variable at some locations. -/
  computeInside : Option (σ → Nat → List Location → Outcome α (List (ValueVector α))) := none
  /-- The preparation of a pass. -/
  initInside : Action α σ Unit := pure ()
  /-- The vector that a chart holds for a variable at a location. -/
  lookup : Chart → Nat → Location → Option (ValueVector α)
  /-- The written form of a location. -/
  describe : Location → String

namespace Protocol

variable {α : Type} [Scalar α] {σ Location Observations Chart β : Type}

/-! ### Operations as actions -/

/-- Use an operation, which has to be provided. -/
def require (operation : Operation) : Option β → Action α σ β
  | none => throw (.fault (.notImplemented operation))
  | some provided => return provided

/-- Ask an operation that only reads. -/
def ask (operation : Operation) (provided : Option (σ → Outcome α β)) : Action α σ β := do
  let read ← require operation provided
  read (← get)

/-- Ask for the numbers of variables at some locations. -/
def askNonTerminals (protocol : Protocol α σ Location Observations Chart)
    (locations : List Location) : Action α σ (List Nat) := do
  let count ← require .nonTerminals protocol.nonTerminals
  count (← get) locations

/-- Ask for the vectors of one variable at some locations. -/
def askComputeInside (protocol : Protocol α σ Location Observations Chart)
    (variableIndex : Nat) (locations : List Location) : Action α σ (List (ValueVector α)) := do
  let compute ← require .computeInside protocol.computeInside
  compute (← get) variableIndex locations

/-- Have the vectors of one variable written at some locations. -/
def askUpdateInsideChart (protocol : Protocol α σ Location Observations Chart)
    (variableIndex : Nat) (locations : List Location) (vectors : List (ValueVector α)) :
    Action α σ Unit := do
  let update ← require .updateInsideChart protocol.updateInsideChart
  update variableIndex locations vectors

/-! ### The inside pass -/

/-- Do one item of work: compute the vectors, then write them. -/
def perform (protocol : Protocol α σ Location Observations Chart) (item : WorkItem Location) :
    Action α σ Unit := do
  let vectors ← protocol.askComputeInside item.variableIndex item.locations
  protocol.askUpdateInsideChart item.variableIndex item.locations vectors

/-- The root vectors of `count` variables from `variableIndex` on. The first one that the chart
does not hold is reported. -/
def rootVectors (protocol : Protocol α σ Location Observations Chart) (chart : Chart)
    (root : Location) : (count variableIndex : Nat) → Built α (List (ValueVector α))
  | 0, _ => return []
  | count + 1, variableIndex =>
    match protocol.lookup chart variableIndex root with
    | none => malformed (.rootNotComputed variableIndex (protocol.describe root))
    | some vector => do
      let rest ← protocol.rootVectors chart root count (variableIndex + 1)
      return vector :: rest

/-- Combine the vectors at the root with the prior. The number of root vectors is the first of
the counts given for the root, and zero if none is given. -/
def readOut (protocol : Protocol α σ Location Observations Chart) : Action α σ α := do
  let root ← ask .rootLocation protocol.rootLocation
  let counts ← protocol.askNonTerminals [root]
  let chart ← ask .insideChart protocol.insideChart
  let roots ← protocol.rootVectors chart root (counts.head?.getD 0) 0
  let prior ← ask .prior protocol.prior
  prior.marginal roots

/-- Run the whole schedule and return the probability of the observations. -/
def run (protocol : Protocol α σ Location Observations Chart) : Action α σ α := do
  protocol.initInside
  let items ← ask .insideSchedule protocol.insideSchedule
  items.forM protocol.perform
  protocol.readOut

end Protocol

end RecursiveBayes
