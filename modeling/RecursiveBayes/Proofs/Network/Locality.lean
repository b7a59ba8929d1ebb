/-
This file compares passes over two sequences that have some consecutive observations
in common. The inside vectors for these observations are the same in both charts,
wherever they stand in the two sequences and whatever surrounds them. The charts
differ in size, the spans stand at different slots, and the schedules reach them at
different times; but a vector is only ever explained from the vectors of the parts of
its span, and those parts have the same observations as well.

No law of arithmetic is assumed: both passes do the same operations on the same
numbers in the same order.
-/

import RecursiveBayes.Proofs.Network.Total

open RecursiveBayes.Action

namespace RecursiveBayes

variable {α : Type} [Scalar α]

namespace Network

/-- Inside vectors are local: where two accepted sequences have the same observations from `start`
to `stop` and from `other` on, the passes over them leave the same vector of every cell. -/
theorem insideObserved_agrees_on_common_phrases (network : Network α)
    (first second : TerminalChart)
    (firstAccepted : network.accepts first.length = true)
    (secondAccepted : network.accepts second.length = true)
    (firstFits : network.Fits first.length) (secondFits : network.Fits second.length)
    (firstBefore secondBefore : Workspace α) :
    ∃ firstMarginal firstAfter secondMarginal secondAfter,
      runOn (network.insideObserved first) firstBefore = (.ok firstMarginal, firstAfter) ∧
      runOn (network.insideObserved second) secondBefore = (.ok secondMarginal, secondAfter) ∧
      ∀ start stop other, start < stop → stop ≤ first.length →
        other + (stop - start) ≤ second.length →
        first.phrase ⟨start, stop⟩ = second.phrase ⟨other, other + (stop - start)⟩ →
        ∀ index, index < network.cellCount → ∃ vector,
          firstAfter.chart.get? index ⟨start, stop⟩ = some vector ∧
          secondAfter.chart.get? index ⟨other, other + (stop - start)⟩ = some vector := by
  obtain ⟨firstAfter, firstRan, firstHolds⟩ :=
    runOn_insideObserved_holds firstAccepted firstFits firstBefore
  obtain ⟨secondAfter, secondRan, secondHolds⟩ :=
    runOn_insideObserved_holds secondAccepted secondFits secondBefore
  refine ⟨_, firstAfter, _, secondAfter, firstRan, secondRan, ?_⟩
  intro start stop other proper inside otherInside same index indexLt
  have within : Span.Within ⟨start, stop⟩ first.length := ⟨proper, inside⟩
  have otherWithin : Span.Within ⟨other, other + (stop - start)⟩ second.length :=
    ⟨Nat.lt_add_of_pos_right (Nat.sub_pos_of_lt proper), otherInside⟩
  refine ⟨_, firstHolds index _ indexLt within, ?_⟩
  rw [secondHolds index _ indexLt otherWithin, same]

/-- In the small network, two symbols have the same vectors at the start of one sequence and at the
end of another one. -/
theorem specimen_common_phrase :
    specimen.Fits 2 ∧ specimen.Fits 3 ∧
      ∃ vector,
        (runOn (specimen.insideObserved ⟨[some 0, some 1]⟩) .initial).2.chart.get? 0 ⟨0, 2⟩ =
          some vector ∧
        (runOn (specimen.insideObserved ⟨[none, some 0, some 1]⟩) .initial).2.chart.get? 0 ⟨1, 3⟩ =
          some vector := by
  have two : specimen.Fits 2 := fits_specimen (by decide)
  have three : specimen.Fits 3 := fits_specimen (by decide)
  obtain ⟨_, firstAfter, _, secondAfter, firstRan, secondRan, common⟩ :=
    insideObserved_agrees_on_common_phrases specimen ⟨[some 0, some 1]⟩
      ⟨[none, some 0, some 1]⟩ (by decide) (by decide) two three .initial .initial
  rw [firstRan, secondRan]
  exact ⟨two, three,
    common 0 2 1 (by decide) (by decide) (by decide) (by decide) 0 (by decide)⟩

end Network

end RecursiveBayes
