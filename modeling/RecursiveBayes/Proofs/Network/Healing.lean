/-
This file says that a pass heals any chart. Whatever the history of a network was,
and whatever was written into its chart by hand, running the pass on it returns what
a new copy of the network returns for the same observations, and leaves the same
chart. The schedule writes over every entry before it reads it, so that nothing of
the old entries is left, neither in the result nor in the chart.

Only the counts remember the past: the pass adds its own work to them. So it is only
their size that can keep it from its end, after a history that has filled a word.
-/

import RecursiveBayes.Proofs.Network.History

open RecursiveBayes.Action

namespace RecursiveBayes

variable {α : Type}

/-! ### Charts that cannot be told apart -/

/-- Two charts for one length and the same variables, with the same vectors written at the same
spans. -/
structure InsideChart.SameAs (chart other : InsideChart α) : Prop where
  sequenceLength : chart.sequenceLength = other.sequenceLength
  cardinalities : chart.cardinalities = other.cardinalities
  entries : ∀ index span, chart.get? index span = other.get? index span

variable [Scalar α]

namespace Network

variable {network : Network α}

/-- Two charts that agree with a network on a sequence hold the same, if they hold something at
the same places. -/
theorem Agrees.sameAs {terminals : TerminalChart} {chart other : InsideChart α}
    (agrees : network.Agrees terminals chart) (otherAgrees : network.Agrees terminals other)
    (places : ∀ index span, chart.Holds index span ↔ other.Holds index span) :
    chart.SameAs other where
  sequenceLength := agrees.sequenceLength.trans otherAgrees.sequenceLength.symm
  cardinalities := agrees.cardinalities.trans otherAgrees.cardinalities.symm
  entries index span := by
    by_cases holds : chart.Holds index span
    · rw [agrees.get?_of_holds holds,
        otherAgrees.get?_of_holds ((places index span).mp holds)]
    · have nowhere := fun written => holds ((places index span).mpr written)
      rw [Option.not_isSome_iff_eq_none.mp holds, Option.not_isSome_iff_eq_none.mp nowhere]

/-! ### Healing -/

/-- After any history, a pass on the current observations returns what a new copy of the network
returns for them, and leaves the same chart. It keeps the observations and the length in the
counts, and raises the counts by what the new copy counts. If a count that is raised in this way
would be no word, the pass aborts. Without observations it fails, and changes nothing. -/
theorem runInside_heals_any_chart (network : Network α) {workspace : Workspace α}
    (reachable : network.Reachable workspace) :
    (0 < workspace.terminals.length → ∃ marginal reference,
      runOn (network.insideObserved workspace.terminals) .initial = (.ok marginal, reference) ∧
      ((workspace.statistics.raisedBy reference.statistics).Words → ∃ after,
        runOn network.runInside workspace = (.ok marginal, after) ∧
        after.chart.SameAs reference.chart ∧
        after.terminals = workspace.terminals ∧
        after.statistics = workspace.statistics.raisedBy reference.statistics) ∧
      (¬ (workspace.statistics.raisedBy reference.statistics).Words →
        (runOn network.runInside workspace).1 = .error (.abort .overflow))) ∧
    (workspace.terminals.length = 0 →
      runOn network.runInside workspace =
        (.error (.fault (.invalidLocation ⟨0, 0⟩ 0)), workspace)) := by
  refine ⟨fun nonempty => ?_, runOn_runInside_of_empty⟩
  have nonzero := Nat.ne_of_gt nonempty
  have consistent := reachable.consistent
  obtain ⟨shaped, accepted, fits⟩ := consistent.shaped nonzero
  have blank := network.agreesOn_blank workspace.terminals
    { sequenceLength := workspace.terminals.length }
  obtain ⟨fresh, ranFresh, freshAgrees, freshHolds⟩ :=
    runOn_runInside_of_shaped blank.observed blank.chart.shaped fits.memory nonzero fits.counts
  have raised : network.countPass workspace.terminals.length workspace.statistics =
      workspace.statistics.raisedBy (network.countPass workspace.terminals.length
        { sequenceLength := workspace.terminals.length }) :=
    workspace.statistics.afterItems_eq_raisedBy _ _
  refine ⟨_, _, (runOn_insideObserved_eq accepted fits.memory nonzero .initial).trans ranFresh,
    fun words => ?_, fun tooLarge => ?_⟩
  · rw [← raised] at words
    obtain ⟨healed, ran, agrees, holds⟩ :=
      runOn_runInside_of_shaped rfl shaped fits.memory nonzero words
    exact ⟨_, ran, agrees.sameAs freshAgrees fun index span =>
      (holds index span).trans (freshHolds index span).symm, rfl, raised⟩
  · rw [← raised] at tooLarge
    exact runOn_runInside_of_overflow rfl shaped fits.memory consistent.words tooLarge

/-- A history of the small network: after a pass over two symbols, a wrong vector is written for
the whole of them by an update that fails at its second vector, and a sequence that is too long is
refused. -/
def tampered : Workspace ℚ :=
  let passed := (runOn ((Call.insideObserved ⟨[some 0, some 1]⟩).effect specimen) .initial).2
  let updated :=
    (runOn ((Call.updateInsideChart 1 [⟨0, 2⟩, ⟨0, 3⟩] [[5], [7]]).effect specimen) passed).2
  (runOn ((Call.inside [0, 1, 0, 1]).effect specimen) updated).2

/-- The wrong vector is there, and a pass returns the right probability nevertheless. -/
theorem specimen_heals_tampered :
    specimen.Reachable tampered ∧
      tampered.chart.get? 1 ⟨0, 2⟩ = some [5] ∧
      (runOn specimen.runInside tampered).1 = .ok (119 / 2304) := by
  have reachable : specimen.Reachable tampered :=
    .call _ (.call _ (.call _ .initial (by decide +kernel)) (by decide +kernel))
      (by decide +kernel)
  obtain ⟨heals, _⟩ := runInside_heals_any_chart specimen reachable
  obtain ⟨marginal, reference, fresh, returns, _⟩ := heals (by decide +kernel)
  have known : (runOn (specimen.insideObserved tampered.terminals) .initial).1 =
        .ok (119 / 2304) ∧
      (tampered.statistics.raisedBy
        (runOn (specimen.insideObserved tampered.terminals) .initial).2.statistics).Words := by
    decide +kernel
  rw [fresh] at known
  obtain ⟨after, ran, _⟩ := returns known.2
  exact ⟨reachable, by decide +kernel, (congrArg Prod.fst ran).trans known.1⟩

end Network

end RecursiveBayes
