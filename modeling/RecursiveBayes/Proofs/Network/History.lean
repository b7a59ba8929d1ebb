/-
This file says which workspaces a network can come to. A history is any sequence of
calls of the operations, with any arguments, whether they succeed or return a fault.
An abort is not returned to the caller, so no history goes on after one.

In every workspace that a history leads to, the observations and the chart belong
together: the chart is for the length of the observations, and it has the tables of
the network unless nothing was ever loaded. What stands in the tables may be anything
that fits, because vectors can be written by hand. The counts are words, however often
they were raised.
-/

import RecursiveBayes.Proofs.Network.Total

open RecursiveBayes.Action

namespace RecursiveBayes

variable {α : Type}

/-! ### Outcomes -/

/-- An outcome that the caller gets to see: a result or a fault, but no abort. -/
def Returned {β : Type} (outcome : Outcome α β) : Prop :=
  ∀ cause, outcome ≠ .error (.abort cause)

instance {β : Type} : (outcome : Outcome α β) → Decidable (Returned outcome)
  | .ok _ => .isTrue fun _ same => (nomatch same)
  | .error (.fault _) => .isTrue fun _ same => (nomatch same)
  | .error (.abort cause) => .isFalse fun returned => returned cause rfl

/-- Leaving the result of an action to the caller changes neither the workspace after it nor
whether it aborts. -/
theorem runOn_ignoring {σ β : Type} (action : Action α σ β) (state : σ) :
    (runOn (do let _ ← action) state).2 = (runOn action state).2 ∧
      (Returned (runOn (do let _ ← action) state).1 → Returned (runOn action state).1) := by
  rw [runOn_bind]
  rcases runOn action state with ⟨outcome, after⟩
  cases outcome with
  | error cause => exact ⟨rfl, fun returned abort same => returned abort (by cases same; rfl)⟩
  | ok value => exact ⟨rfl, fun _ abort same => (nomatch same)⟩

/-! ### Writes -/

namespace Network

/-- Nothing but the entries of the chart and the counts are different. -/
structure SameShape (before after : Workspace α) : Prop where
  terminals : after.terminals = before.terminals
  sequenceLength : after.chart.sequenceLength = before.chart.sequenceLength
  cardinalities : after.chart.cardinalities = before.chart.cardinalities

/-- Writing and counting keep the shape. -/
theorem kept_sameShape (before : Workspace α) : Kept (SameShape before) :=
  .of_ignoresCounts (fun _ _ same => ⟨same.terminals, same.sequenceLength, same.cardinalities⟩)
    fun _ _ _ _ _ same => ⟨same.terminals, same.sequenceLength,
      (InsideChart.cardinalities_write _ _ _ _).trans same.cardinalities⟩

end Network

variable [Scalar α]

/-! ### Calls -/

/-- A call of an operation of a network, with its arguments. -/
inductive Call (α : Type) where
  | inside (symbols : List Nat)
  | insideObserved (terminals : TerminalChart)
  | runInside
  | initInside
  | computeInside (index : Nat) (spans : List Span)
  | updateInsideChart (index : Nat) (spans : List Span) (vectors : List (ValueVector α))

/-- The effect of a call on the workspace. The value that it returns is left to the caller. -/
def Call.effect (network : Network α) : Call α → Action α (Workspace α) Unit
  | inside symbols => do let _ ← network.inside symbols
  | insideObserved terminals => do let _ ← network.insideObserved terminals
  | runInside => do let _ ← network.runInside
  | initInside => network.protocol.initInside
  | computeInside index spans => do let _ ← network.protocol.askComputeInside index spans
  | updateInsideChart index spans vectors => Network.updateInsideChart index spans vectors

namespace Network

/-- The workspaces that a network can come to. -/
inductive Reachable (network : Network α) : Workspace α → Prop
  | initial : network.Reachable .initial
  | call {workspace : Workspace α} (call : Call α) (reachable : network.Reachable workspace)
      (returned : Returned (runOn (call.effect network) workspace).1) :
    network.Reachable (runOn (call.effect network) workspace).2

/-! ### The invariant -/

/-- The observations and the chart belong together, the observations were accepted and had room if
anything was loaded at all, and the counts are words. -/
structure Consistent (network : Network α) (workspace : Workspace α) : Prop where
  sequenceLength : workspace.chart.sequenceLength = workspace.terminals.length
  loaded : workspace.terminals.length = 0 ∧ workspace.chart.cardinalities = [] ∨
    workspace.chart.cardinalities = network.cardinalities ∧
      network.accepts workspace.terminals.length = true ∧
      network.Fits workspace.terminals.length
  words : workspace.statistics.Words

variable {network : Network α}

theorem consistent_initial (network : Network α) : network.Consistent .initial where
  sequenceLength := rfl
  loaded := Or.inl ⟨rfl, rfl⟩
  words := Statistics.words_fresh 0

/-- What was loaded, if it is not empty. -/
theorem Consistent.shaped {workspace : Workspace α} (consistent : network.Consistent workspace)
    (nonempty : workspace.terminals.length ≠ 0) :
    network.Shaped workspace.terminals workspace.chart ∧
      network.accepts workspace.terminals.length = true ∧
      network.Fits workspace.terminals.length := by
  obtain ⟨isEmpty, _⟩ | ⟨cardinalities, accepted, fits⟩ := consistent.loaded
  · exact absurd isEmpty nonempty
  · exact ⟨⟨consistent.sequenceLength, cardinalities⟩, accepted, fits⟩

/-- A chart that agrees with the network on accepted observations is consistent with them. -/
theorem AgreesOn.consistent {terminals : TerminalChart} {workspace : Workspace α}
    (agrees : network.AgreesOn terminals workspace)
    (accepted : network.accepts terminals.length = true) (fits : network.Fits terminals.length)
    (words : workspace.statistics.Words) : network.Consistent workspace := by
  obtain ⟨rfl, chart⟩ := agrees
  exact ⟨chart.sequenceLength, Or.inr ⟨chart.cardinalities, accepted, fits⟩, words⟩

/-! ### Single operations -/

theorem SameShape.consistent {before after : Workspace α} (same : SameShape before after)
    (words : after.statistics.Words) (consistent : network.Consistent before) :
    network.Consistent after where
  sequenceLength := by
    rw [same.sequenceLength, same.terminals, consistent.sequenceLength]
  loaded := by
    rw [same.terminals, same.cardinalities]
    exact consistent.loaded
  words := words

/-- The invariant is kept by single writes and counts, as the shape and words are. -/
theorem kept_consistent (network : Network α) : Kept network.Consistent where
  writeVector index entry state consistent :=
    ((kept_sameShape state).writeVector index entry state ⟨rfl, rfl, rfl⟩).consistent
      (kept_words.writeVector index entry state consistent.words) consistent
  countUpdate spans state consistent :=
    ((kept_sameShape state).countUpdate spans state ⟨rfl, rfl, rfl⟩).consistent
      (kept_words.countUpdate spans state consistent.words) consistent

/-- A pass over an accepted sequence that returns to the caller had room for it. -/
theorem fits_of_returned {terminals : TerminalChart} {workspace : Workspace α}
    (accepted : network.accepts terminals.length = true)
    (returned : Returned (runOn (network.insideObserved terminals) workspace).1) :
    network.Fits terminals.length := by
  by_contra full
  obtain ⟨cause, aborted⟩ := runOn_insideObserved_of_full accepted full workspace
  exact returned cause aborted

theorem Consistent.insideObserved {workspace : Workspace α}
    (consistent : network.Consistent workspace) {terminals : TerminalChart}
    (returned : Returned (runOn (network.insideObserved terminals) workspace).1) :
    network.Consistent (runOn (network.insideObserved terminals) workspace).2 := by
  cases accepted : network.accepts terminals.length with
  | false =>
    rw [runOn_insideObserved_of_refused accepted]
    exact consistent
  | true =>
    have fits := fits_of_returned accepted returned
    by_cases isEmpty : terminals.length = 0
    · rw [runOn_insideObserved_blank accepted fits.memory isEmpty]
      exact (network.agreesOn_blank terminals _).consistent accepted fits
        (Statistics.words_fresh terminals.length)
    · have blank := network.agreesOn_blank terminals { sequenceLength := terminals.length }
      obtain ⟨chart, ran, agrees, _⟩ := runOn_runInside_of_shaped blank.observed
        blank.chart.shaped fits.memory isEmpty fits.counts
      rw [runOn_insideObserved_eq accepted fits.memory isEmpty, ran]
      exact (agrees.agreesOn _).consistent accepted fits fits.counts

/-- A pass works off its schedule, one write and one count after the other. -/
theorem Consistent.runInside {workspace : Workspace α}
    (consistent : network.Consistent workspace) :
    network.Consistent (runOn network.runInside workspace).2 := by
  by_cases isEmpty : workspace.terminals.length = 0
  · rw [runOn_runInside_of_empty isEmpty]
    exact consistent
  · obtain ⟨_, _, fits⟩ := consistent.shaped isEmpty
    rw [runOn_runInside_eq rfl fits.memory]
    exact runOn_bind_keeps network.Consistent
      (network.kept_consistent.performAll (network.standardItems _) consistent)
      fun _ after kept => (network.readOut_keeps after).symm ▸ kept

/-! ### Histories -/

/-- Every call keeps the invariant, also when it fails. -/
theorem Consistent.call {workspace : Workspace α} (consistent : network.Consistent workspace)
    (call : Call α) (returned : Returned (runOn (call.effect network) workspace).1) :
    network.Consistent (runOn (call.effect network) workspace).2 := by
  cases call with
  | inside symbols =>
    obtain ⟨after, returns⟩ := runOn_ignoring (network.inside symbols) workspace
    rw [Call.effect, after]
    exact consistent.insideObserved (returns returned)
  | insideObserved terminals =>
    obtain ⟨after, returns⟩ := runOn_ignoring (network.insideObserved terminals) workspace
    rw [Call.effect, after]
    exact consistent.insideObserved (returns returned)
  | runInside =>
    rw [Call.effect, (runOn_ignoring network.runInside workspace).1]
    exact consistent.runInside
  | initInside => exact consistent
  | computeInside index spans =>
    rw [Call.effect, (runOn_ignoring _ workspace).1]
    exact consistent
  | updateInsideChart index spans vectors =>
    exact network.kept_consistent.updateInsideChart consistent

theorem Reachable.consistent {workspace : Workspace α} (reachable : network.Reachable workspace) :
    network.Consistent workspace := by
  induction reachable with
  | initial => exact network.consistent_initial
  | call call reachable returned inductionHypothesis => exact inductionHypothesis.call call returned

end Network

end RecursiveBayes
