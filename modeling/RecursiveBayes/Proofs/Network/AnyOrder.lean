/-
This file compares the pass of the library with a run through any list of items:
in any order, with repetitions, with omissions, and with items that make no sense.
Such a run may fail, but it never goes wrong. Whatever it has written at any
moment is what the pass writes, and if it returns a number, then it is the one
that the pass returns.

The comparison assumes no law of arithmetic. Both runs explain a vector from the
same vectors by the same operations in the same order, since a vector that was
not written is never read.
-/

import RecursiveBayes.Proofs.Network.Total

open RecursiveBayes.Action

namespace RecursiveBayes

variable {α : Type} [Scalar α]

/-- On a blank chart, what was written or asked for is what was asked for. -/
theorem InsideChart.holds_blank_or_asked (cardinalities : List Nat) (length : Nat)
    (items : List (WorkItem Span)) :
    (fun index span =>
      (InsideChart.blank cardinalities length : InsideChart α).Holds index span ∨
        Asked items index span) = Asked items := by
  funext index span
  rw [holds_blank, false_or]

namespace Network

/-! ### Moments of a run -/

/-- The workspaces that a run through some items goes through: at its start, after each single
write of an item that was computed, while the item is counted, and then those of the remaining
items. -/
inductive Moment (network : Network α) :
    List (WorkItem Span) → Workspace α → Workspace α → Prop
  | start (items : List (WorkItem Span)) (workspace : Workspace α) :
    network.Moment items workspace workspace
  | writing {item : WorkItem Span} {rest : List (WorkItem Span)} {workspace : Workspace α}
      {vectors : List (ValueVector α)} (count : Nat)
      (computed : network.computeInside workspace item.variableIndex item.locations =
        .ok vectors) :
    network.Moment (item :: rest) workspace
      (runOn (((item.locations.zip vectors).take count).forM (writeVector item.variableIndex))
        workspace).2
  | counting {item : WorkItem Span} {rest : List (WorkItem Span)} {workspace after : Workspace α}
      {vectors : List (ValueVector α)} (statistics : Statistics)
      (computed : network.computeInside workspace item.variableIndex item.locations =
        .ok vectors)
      (written : runOn ((item.locations.zip vectors).forM (writeVector item.variableIndex))
        workspace = (.ok (), after)) :
    network.Moment (item :: rest) workspace { after with statistics := statistics }
  | later {item : WorkItem Span} {rest : List (WorkItem Span)}
      {workspace next moment : Workspace α}
      (performed : runOn (network.protocol.perform item) workspace = (.ok (), next))
      (remaining : network.Moment rest next moment) :
    network.Moment (item :: rest) workspace moment

variable {network : Network α} {terminals : TerminalChart}

/-- At every moment of a run the chart agrees with the network. -/
theorem AgreesOn.moment {items : List (WorkItem Span)} {workspace moment : Workspace α}
    (agrees : network.AgreesOn terminals workspace) (fits : network.FitsMemory terminals.length)
    (reached : network.Moment items workspace moment) : network.AgreesOn terminals moment := by
  induction reached with
  | start items workspace => exact agrees
  | writing count computed =>
    obtain ⟨_, _, _, each⟩ := agrees.of_computeInside fits computed
    exact agrees.writes fun entry member within =>
      (each entry (List.mem_of_mem_take member) within).2.symm
  | counting statistics computed written =>
    obtain ⟨_, _, _, each⟩ := agrees.of_computeInside fits computed
    have kept := agrees.writes fun entry member within => (each entry member within).2.symm
    rw [written] at kept
    exact ⟨kept.observed, kept.chart⟩
  | @later item rest workspace next moment performed remaining inductionHypothesis =>
    have kept := agrees.perform fits item
    rw [performed] at kept
    exact inductionHypothesis kept

/-- Where an item fails, some of its vectors may have been written before, or all of them if it
could not be counted. -/
theorem moment_of_perform_error {item : WorkItem Span} {rest : List (WorkItem Span)}
    {workspace after : Workspace α} {cause : Failure α}
    (failed : runOn (network.protocol.perform item) workspace = (.error cause, after)) :
    network.Moment (item :: rest) workspace after := by
  rw [runOn_perform] at failed
  cases computed : network.computeInside workspace item.variableIndex item.locations with
  | error reason =>
    rw [computed] at failed
    cases failed
    exact .start _ _
  | ok vectors =>
    rw [computed] at failed
    by_cases lengths : item.locations.length = vectors.length
    · rcases ran : runOn ((item.locations.zip vectors).forM (writeVector item.variableIndex))
        workspace with ⟨outcome, last⟩
      cases outcome with
      | error reason =>
        have reached : network.Moment (item :: rest) workspace _ :=
          .writing (item.locations.zip vectors).length computed
        rw [List.take_length, ran] at reached
        cases (runOn_updateInsideChart_of_refused lengths ran).symm.trans failed
        exact reached
      | ok _ =>
        have counted := (runOn_updateInsideChart_of_written lengths ran).symm.trans failed
        split at counted
        · cases counted
        · cases counted
          exact .counting _ computed ran
    · cases (runOn_updateInsideChart_of_lengths lengths).symm.trans failed
      exact .start _ _

/-- The workspace that a run leaves behind is one of its moments, also if the run fails. -/
theorem moment_performAll (network : Network α) (items : List (WorkItem Span))
    (workspace : Workspace α) :
    network.Moment items workspace
      (runOn (items.forM network.protocol.perform) workspace).2 := by
  induction items generalizing workspace with
  | nil => exact .start _ _
  | cons item rest inductionHypothesis =>
    rw [runOn_forM_cons]
    rcases performed : runOn (network.protocol.perform item) workspace with ⟨outcome, next⟩
    cases outcome with
    | error cause => exact moment_of_perform_error performed
    | ok _ => exact .later performed (inductionHypothesis next)

/-- The read-out changes nothing, so no moment comes after those of the items. -/
theorem moment_follow (network : Network α) (items : List (WorkItem Span))
    (workspace : Workspace α) :
    network.Moment items workspace (runOn (network.follow items) workspace).2 :=
  runOn_bind_keeps (network.Moment items workspace) (network.moment_performAll items workspace)
    fun _ after reached => (network.readOut_keeps after).symm ▸ reached

/-! ### Comparison with the pass -/

/-- Every populated entry of a chart that agrees is an entry of a complete chart that agrees. -/
theorem Agrees.get?_of_complete {part whole : InsideChart α}
    (agrees : network.Agrees terminals part) (complete : network.Agrees terminals whole)
    (holds : ∀ index span, whole.Holds index span ↔
      index < network.cellCount ∧ span.Within terminals.length)
    {index : Nat} {span : Span} {vector : ValueVector α}
    (found : part.get? index span = some vector) : whole.get? index span = some vector := by
  have populated := agrees.shaped.of_holds (InsideChart.holds_iff.mpr ⟨vector, found⟩)
  rw [complete.get?_of_holds ((holds index span).mpr populated),
    agrees.entries index span vector found]

theorem inOrder_blank_iff {cardinalities : List Nat} {length : Nat}
    {items : List (WorkItem Span)} :
    network.InOrder length (InsideChart.blank cardinalities length : InsideChart α).Holds items ↔
      ∀ done item rest, items = done ++ item :: rest →
        network.Ready length (Asked done) item := by
  simp only [inOrder_iff, InsideChart.holds_blank_or_asked]

/-- Any run on a fresh chart agrees with the pass of the library at every moment, also when it
fails, and where it returns a number, it is the one that the pass returns. It returns one exactly
if each item names a cell and spans of the sequence whose parts were asked for before, all root
vectors are asked for, and what is asked for is counted in words. The pass itself returns exactly
if its own counts are words. -/
theorem follow_agrees_with_the_pass (network : Network α) {terminals : TerminalChart}
    (nonempty : 0 < terminals.length) {before start : Workspace α}
    (loaded : runOn (network.load terminals) before = (.ok (), start))
    (items : List (WorkItem Span)) :
    ((∃ marginal reference, runOn network.runInside start = (.ok marginal, reference)) ↔
      (network.countPass terminals.length start.statistics).Words) ∧
    (∀ marginal reference, runOn network.runInside start = (.ok marginal, reference) →
      (network.accepts terminals.length = true → ∀ other,
        runOn (network.insideObserved terminals) other = (.ok marginal, reference)) ∧
      (∀ moment, network.Moment items start moment → ∀ index span vector,
        moment.chart.get? index span = some vector →
          reference.chart.get? index span = some vector) ∧
      (∀ result, (runOn (network.follow items) start).1 = .ok result → result = marginal)) ∧
    network.Moment items start (runOn (network.follow items) start).2 ∧
    ((∃ result, (runOn (network.follow items) start).1 = .ok result) ↔
      (∀ done item rest, items = done ++ item :: rest →
        network.Ready terminals.length (Asked done) item) ∧
      network.RootsWritten terminals.length (Asked items) ∧
      (start.statistics.afterItems items).Words) := by
  -- That the chart was allocated is all that is known about the room for it.
  have fits := fitsMemory_of_load loaded
  have nonzero : terminals.length ≠ 0 := Nat.ne_of_gt nonempty
  have same := (runOn_load fits before).symm.trans loaded
  obtain rfl : ⟨terminals, .blank network.cardinalities terminals.length, _⟩ = start :=
    congrArg Prod.snd same
  have agrees := network.agreesOn_blank terminals { sequenceLength := terminals.length }
  have fresh := Statistics.words_fresh terminals.length
  have counted {marginal : α} {reference : Workspace α}
      (ran : runOn network.runInside ⟨terminals, .blank network.cardinalities terminals.length,
        { sequenceLength := terminals.length }⟩ = (.ok marginal, reference)) :
      (network.countPass terminals.length { sequenceLength := terminals.length }).Words := by
    by_contra tooLarge
    have aborted := runOn_runInside_of_overflow agrees.observed agrees.chart.shaped fits fresh
      tooLarge
    rw [ran] at aborted
    cases aborted
  refine ⟨⟨fun ⟨_, _, ran⟩ => counted ran, fun words => ?_⟩, fun marginal reference ran => ?_,
    network.moment_follow items _, ?_⟩
  · obtain ⟨reference, ran, _⟩ := runOn_runInside fits nonzero words
    exact ⟨_, reference, ran⟩
  · obtain ⟨whole, ranWhole, complete, holds⟩ := runOn_runInside fits nonzero (counted ran)
    cases ranWhole.symm.trans ran
    refine ⟨fun accepted other => ?_, fun moment reached index span vector found => ?_,
      fun result succeeds => ?_⟩
    · rw [runOn_insideObserved_eq accepted fits nonzero, ranWhole]
    · exact (agrees.moment fits reached).chart.get?_of_complete complete.chart holds found
    · obtain ⟨inOrder, words, roots⟩ := agrees.inOrder_of_follow fits nonzero fresh succeeds
      obtain ⟨after, followed, _⟩ := agrees.follow_of_inOrder fits nonzero inOrder words roots
      rw [followed] at succeeds
      exact (Except.ok.inj succeeds).symm
  · constructor
    · rintro ⟨result, succeeds⟩
      obtain ⟨inOrder, words, roots⟩ := agrees.inOrder_of_follow fits nonzero fresh succeeds
      rw [InsideChart.holds_blank_or_asked] at roots
      exact ⟨inOrder_blank_iff.mp inOrder, roots, words⟩
    · rintro ⟨ready, roots, words⟩
      rw [← InsideChart.holds_blank_or_asked (α := α) network.cardinalities terminals.length]
        at roots
      obtain ⟨after, followed, _⟩ :=
        agrees.follow_of_inOrder fits nonzero (inOrder_blank_iff.mpr ready) words roots
      exact ⟨_, congrArg Prod.fst followed⟩

/-- A run over two symbols in the small network that leaves out the second symbol as a phrase,
which is no part of the whole, and takes the rest in an order of its own. -/
def shortcut : List (WorkItem Span) :=
  [⟨1, [⟨1, 2⟩, ⟨0, 1⟩]⟩, ⟨0, [⟨0, 1⟩]⟩, ⟨0, [⟨0, 2⟩]⟩, ⟨1, [⟨0, 2⟩]⟩]

/-- The shortcut returns what the pass returns. Without its last item there is no result. -/
theorem specimen_follow_shortcut :
    ∃ start : Workspace ℚ, runOn (specimen.load ⟨[some 0, some 1]⟩) .initial = (.ok (), start) ∧
      (runOn (specimen.follow shortcut) start).1 = .ok (119 / 2304) ∧
      (∃ reference, runOn (specimen.insideObserved ⟨[some 0, some 1]⟩) .initial =
        (.ok (119 / 2304), reference)) ∧
      ¬ ∃ result, (runOn (specimen.follow shortcut.dropLast) start).1 = .ok result := by
  have room : specimen.FitsMemory 2 := (fits_specimen (by decide)).memory
  have loaded : runOn (specimen.load ⟨[some 0, some 1]⟩) .initial =
      (.ok (), ⟨⟨[some 0, some 1]⟩, .blank specimen.cardinalities 2, { sequenceLength := 2 }⟩) :=
    runOn_load room .initial
  have followed : (runOn (specimen.follow shortcut) ⟨⟨[some 0, some 1]⟩,
      .blank specimen.cardinalities 2, { sequenceLength := 2 }⟩).1 = .ok (119 / 2304) := by
    decide +kernel
  refine ⟨_, loaded, followed, ?_, fun returns => ?_⟩
  · obtain ⟨passes, same, _⟩ :=
      follow_agrees_with_the_pass specimen (by decide) loaded shortcut
    obtain ⟨marginal, reference, ran⟩ := passes.mpr (fits_specimen (by decide)).counts
    obtain ⟨observed, _, unique⟩ := same marginal reference ran
    rw [unique _ followed]
    exact ⟨reference, observed (by decide) .initial⟩
  · obtain ⟨_, _, _, returns_iff⟩ :=
      follow_agrees_with_the_pass specimen (by decide) loaded shortcut.dropLast
    have asked : Asked shortcut.dropLast 1 ⟨0, 2⟩ := (returns_iff.mp returns).2.1 1 (by decide)
    unfold Asked at asked
    exact absurd asked (by decide)

end Network

end RecursiveBayes
