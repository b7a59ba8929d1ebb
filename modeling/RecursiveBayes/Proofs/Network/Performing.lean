/-
This file follows a run through a list of work items in any order. The invariant
is that the chart agrees with the recursion on observations. Every write keeps it,
whether the item that makes the write succeeds or not, because a cell never
returns a vector that was not explained from written entries.

An item is performed exactly when it is ready: it names a cell and spans of the
sequence, and everything that its cell reads was written before. A run performs all
its items exactly when each is ready after the ones before it. What is performed is
counted, and the run aborts at the first item whose counts are no words.
-/

import RecursiveBayes.Proofs.Network.Agreement
import RecursiveBayes.Proofs.Network.Writing
import RecursiveBayes.Proofs.Schedule.Enumeration

open RecursiveBayes.Action

namespace RecursiveBayes

variable {α : Type} [Scalar α]

namespace Network

/-! ### Agreement -/

/-- A workspace for a sequence, whose chart agrees with the network. -/
structure AgreesOn (network : Network α) (terminals : TerminalChart) (workspace : Workspace α) :
    Prop where
  observed : workspace.terminals = terminals
  chart : network.Agrees terminals workspace.chart

variable {network : Network α} {terminals : TerminalChart}

theorem Agrees.agreesOn {chart : InsideChart α} (agrees : network.Agrees terminals chart)
    (statistics : Statistics) : network.AgreesOn terminals ⟨terminals, chart, statistics⟩ :=
  ⟨rfl, agrees⟩

/-- Writing inside vectors keeps the agreement, wherever the writes stop. What lies outside the
sequence is not written, so nothing is asked of it. -/
theorem AgreesOn.writes {workspace : Workspace α} (agrees : network.AgreesOn terminals workspace)
    {index : Nat} {entries : List (Span × ValueVector α)}
    (same : ∀ entry ∈ entries, entry.1.Within terminals.length →
      entry.2 = network.insideVector index (terminals.phrase entry.1)) :
    network.AgreesOn terminals (runOn (entries.forM (writeVector index)) workspace).2 := by
  refine runOn_forM_keeps (network.AgreesOn terminals) (fun entry member state holds => ?_) agrees
  cases accepted : state.chart.slotFor index entry.1 entry.2 with
  | error fault =>
    rw [runOn_writeVector_of_error accepted]
    exact holds
  | ok slot =>
    have within := (InsideChart.exists_slotFor_iff.mp ⟨slot, accepted⟩).2
    rw [holds.chart.sequenceLength] at within
    rw [runOn_writeVector_of_ok accepted]
    exact ⟨holds.observed, holds.chart.write accepted (same entry member within)⟩

/-! ### Charts that were written into -/

/-- A chart after the inside vectors for some places were written into another one, and nothing
else was. -/
structure Rewritten (network : Network α) (terminals : TerminalChart)
    (places : Nat → Span → Prop) (before after : InsideChart α) : Prop where
  sequenceLength : after.sequenceLength = before.sequenceLength
  cardinalities : after.cardinalities = before.cardinalities
  written : network.CorrectAt terminals after places
  kept : ∀ index span, ¬ places index span → after.get? index span = before.get? index span

namespace Rewritten

variable {places later trusted : Nat → Span → Prop} {before between after : InsideChart α}

theorem nowhere (network : Network α) (terminals : TerminalChart) (chart : InsideChart α) :
    network.Rewritten terminals (fun _ _ => False) chart chart where
  sequenceLength := rfl
  cardinalities := rfl
  written _ _ absurdly := absurdly.elim
  kept _ _ _ := rfl

/-- Places that are written twice keep inside vectors. -/
theorem trans (first : network.Rewritten terminals places before between)
    (second : network.Rewritten terminals later between after) :
    network.Rewritten terminals (fun index span => places index span ∨ later index span)
      before after where
  sequenceLength := second.sequenceLength.trans first.sequenceLength
  cardinalities := second.cardinalities.trans first.cardinalities
  written index span written := by
    by_cases again : later index span
    · exact second.written index span again
    · rw [second.kept index span again]
      exact first.written index span (written.resolve_right again)
  kept index span untouched := by
    obtain ⟨notFirst, notSecond⟩ := not_or.mp untouched
    rw [second.kept index span notSecond, first.kept index span notFirst]

theorem shaped (rewritten : network.Rewritten terminals places before after)
    (shaped : network.Shaped terminals before) : network.Shaped terminals after where
  sequenceLength := rewritten.sequenceLength.trans shaped.sequenceLength
  cardinalities := rewritten.cardinalities.trans shaped.cardinalities

/-- What was correct before stays correct. -/
theorem correctAt (rewritten : network.Rewritten terminals places before after)
    (correct : network.CorrectAt terminals before trusted) :
    network.CorrectAt terminals after
      (fun index span => trusted index span ∨ places index span) := by
  intro index span known
  by_cases here : places index span
  · exact rewritten.written index span here
  · rw [rewritten.kept index span here]
    exact correct index span (known.resolve_right here)

theorem agrees (rewritten : network.Rewritten terminals places before after)
    (agrees : network.Agrees terminals before) : network.Agrees terminals after where
  sequenceLength := rewritten.sequenceLength.trans agrees.sequenceLength
  cardinalities := rewritten.cardinalities.trans agrees.cardinalities
  entries index span vector found := by
    by_cases here : places index span
    · rw [rewritten.written index span here] at found
      exact (Option.some.inj found).symm
    · rw [rewritten.kept index span here] at found
      exact agrees.entries index span vector found

theorem holds_iff (rewritten : network.Rewritten terminals places before after) {index : Nat}
    {span : Span} : after.Holds index span ↔ before.Holds index span ∨ places index span := by
  by_cases here : places index span
  · exact ⟨fun _ => Or.inr here,
      fun _ => InsideChart.holds_iff.mpr ⟨_, rewritten.written index span here⟩⟩
  · rw [InsideChart.Holds, rewritten.kept index span here, or_iff_left here, InsideChart.Holds]

end Rewritten

/-- Inside vectors of a cell for spans of the sequence are all written, and nothing else is. -/
theorem Shaped.writes {workspace : Workspace α}
    (shaped : network.Shaped terminals workspace.chart) {index : Nat} {cell : Cell α}
    (found : network.cells[index]? = some cell) {spans : List Span}
    (within : ∀ span ∈ spans, span.Within terminals.length) :
    ∃ chart,
      runOn ((spans.map fun span => (span, network.insideVector index (terminals.phrase span))).forM
          (writeVector index)) workspace = (.ok (), { workspace with chart := chart }) ∧
      network.Rewritten terminals (fun other span => other = index ∧ span ∈ spans)
        workspace.chart chart := by
  induction spans generalizing workspace with
  | nil =>
    refine ⟨workspace.chart, rfl, ?_⟩
    simpa only [List.not_mem_nil, and_false] using
      Rewritten.nowhere network terminals workspace.chart
  | cons span rest inductionHypothesis =>
    have length := network.length_insideVector found (terminals.phrase span)
    -- The chart accepts the vector, because its tables have the cardinalities of the cells.
    obtain ⟨slot, accepted⟩ := InsideChart.exists_slotFor_iff.mpr
      ⟨length ▸ shaped.cardinality? found,
        shaped.sequenceLength ▸ within span List.mem_cons_self⟩
    have first : network.Rewritten terminals (fun other place => other = index ∧ place = span)
        workspace.chart (workspace.chart.write index slot
          (network.insideVector index (terminals.phrase span))) := by
      refine ⟨rfl, InsideChart.cardinalities_write _ _ _ _, ?_, fun other place elsewhere => ?_⟩
      · rintro other place ⟨rfl, rfl⟩
        rw [InsideChart.get?_write accepted, if_pos ⟨rfl, rfl⟩]
      · rw [InsideChart.get?_write accepted, if_neg elsewhere]
    have next : network.Shaped terminals (Workspace.chart ⟨workspace.terminals,
        workspace.chart.write index slot (network.insideVector index (terminals.phrase span)),
        workspace.statistics⟩) := shaped.write _ _ _
    obtain ⟨chart, ran, others⟩ := inductionHypothesis next
      fun other member => within other (List.mem_cons_of_mem _ member)
    refine ⟨chart, ?_, ?_⟩
    · rw [List.map_cons, runOn_forM_cons, runOn_writeVector_of_ok accepted]
      exact ran
    · simpa only [List.mem_cons, and_or_left] using first.trans others

/-! ### Items -/

/-- An item that will succeed: it names a cell and spans of the sequence, and everything that the
cell reads for them was written. -/
def Ready (network : Network α) (length : Nat) (written : Nat → Span → Prop)
    (item : WorkItem Span) : Prop :=
  ∃ cell, network.cells[item.variableIndex]? = some cell ∧
    ∀ span ∈ item.locations,
      span.Within length ∧ Supplied cell item.variableIndex span written

theorem runOn_askComputeInside (index : Nat) (spans : List Span) (workspace : Workspace α) :
    runOn (network.protocol.askComputeInside index spans) workspace =
      (network.computeInside workspace index spans, workspace) := rfl

theorem runOn_perform (item : WorkItem Span) (workspace : Workspace α) :
    runOn (network.protocol.perform item) workspace =
      match network.computeInside workspace item.variableIndex item.locations with
      | .ok vectors =>
        runOn (updateInsideChart item.variableIndex item.locations vectors) workspace
      | .error cause => (.error cause, workspace) := by
  rw [Protocol.perform, runOn_bind, runOn_askComputeInside]
  cases network.computeInside workspace item.variableIndex item.locations with
  | error cause => rfl
  | ok vectors => rfl

/-- What is computed for spans of the sequence are inside vectors, and everything that they are
explained from was written. -/
theorem AgreesOn.of_computeInside {workspace : Workspace α}
    (agrees : network.AgreesOn terminals workspace) (fits : network.FitsMemory terminals.length)
    {index : Nat} {spans : List Span} {vectors : List (ValueVector α)}
    (computed : network.computeInside workspace index spans = .ok vectors) :
    ∃ cell, network.cells[index]? = some cell ∧ spans.length = vectors.length ∧
      ∀ entry ∈ spans.zip vectors, entry.1.Within terminals.length →
        Supplied cell index entry.1 workspace.chart.Holds ∧
          network.insideVector index (terminals.phrase entry.1) = entry.2 := by
  rw [computeInside] at computed
  cases found : network.cells[index]? with
  | none =>
    rw [found] at computed
    cases computed
  | some cell =>
    rw [found] at computed
    obtain ⟨lengths, each⟩ := List.forall₂_iff_zip.mp (mapM_eq_ok_iff.mp computed)
    refine ⟨cell, rfl, lengths, fun entry member within => ?_⟩
    have returned := each member
    rw [agrees.observed] at returned
    exact (agrees.chart.inside_eq_ok_iff fits found within).mp returned

/-- A workspace for a sequence, whose chart has the right shape and is correct at some places. -/
structure KnownAt (network : Network α) (terminals : TerminalChart) (places : Nat → Span → Prop)
    (workspace : Workspace α) : Prop where
  observed : workspace.terminals = terminals
  shaped : network.Shaped terminals workspace.chart
  correct : network.CorrectAt terminals workspace.chart places

theorem AgreesOn.knownAt {workspace : Workspace α}
    (agrees : network.AgreesOn terminals workspace) :
    network.KnownAt terminals workspace.chart.Holds workspace where
  observed := agrees.observed
  shaped := agrees.chart.shaped
  correct := agrees.chart.correctAt

theorem KnownAt.computeInside_of_ready {places : Nat → Span → Prop} {workspace : Workspace α}
    (known : network.KnownAt terminals places workspace)
    (fits : network.FitsMemory terminals.length) {item : WorkItem Span}
    (ready : network.Ready terminals.length places item) :
    network.computeInside workspace item.variableIndex item.locations =
      .ok (item.locations.map fun span =>
        network.insideVector item.variableIndex (terminals.phrase span)) := by
  obtain ⟨cell, found, supplied⟩ := ready
  rw [computeInside, found]
  refine mapM_eq_ok fun span member => ?_
  obtain ⟨within, parts⟩ := supplied span member
  rw [known.observed]
  exact known.shaped.inside_of_supplied fits known.correct found within parts

/-- An item that is ready writes all its vectors, and nothing else. Where it does not write, the
chart may hold anything. The item is counted if the counts stay words. -/
theorem KnownAt.perform_of_ready {places : Nat → Span → Prop} {workspace : Workspace α}
    (known : network.KnownAt terminals places workspace)
    (fits : network.FitsMemory terminals.length) {item : WorkItem Span}
    (ready : network.Ready terminals.length places item) :
    ∃ chart, runOn (network.protocol.perform item) workspace =
        (if (workspace.statistics.afterUpdate item.locations).Words then
          (.ok (), ⟨terminals, chart, workspace.statistics.afterUpdate item.locations⟩)
        else
          (.error (.abort .overflow),
            ⟨terminals, chart, workspace.statistics.untilOverflow item.locations⟩)) ∧
      network.Rewritten terminals
        (fun other span => other = item.variableIndex ∧ span ∈ item.locations)
        workspace.chart chart := by
  have computed := known.computeInside_of_ready fits ready
  obtain ⟨cell, found, supplied⟩ := ready
  obtain ⟨chart, ran, rewritten⟩ := known.shaped.writes found
    fun span member => (supplied span member).1
  refine ⟨chart, ?_, rewritten⟩
  have paired : item.locations.zip (item.locations.map fun span =>
      network.insideVector item.variableIndex (terminals.phrase span)) =
        item.locations.map fun span =>
          (span, network.insideVector item.variableIndex (terminals.phrase span)) := by
    rw [← List.map_id item.locations, List.map_map, List.zip_map', List.map_map]
    rfl
  rw [← paired] at ran
  have updated := runOn_updateInsideChart_of_written (List.length_map _).symm ran
  rw [known.observed] at updated
  rw [runOn_perform, computed]
  exact updated

/-- An item keeps the agreement, also when it fails. -/
theorem AgreesOn.perform {workspace : Workspace α} (agrees : network.AgreesOn terminals workspace)
    (fits : network.FitsMemory terminals.length) (item : WorkItem Span) :
    network.AgreesOn terminals (runOn (network.protocol.perform item) workspace).2 := by
  rw [runOn_perform]
  cases computed : network.computeInside workspace item.variableIndex item.locations with
  | error cause => exact agrees
  | ok vectors =>
    obtain ⟨_, _, _, each⟩ := agrees.of_computeInside fits computed
    exact updateInsideChart_keeps (network.AgreesOn terminals)
      (fun _ _ holds => ⟨holds.observed, holds.chart⟩) agrees
      (agrees.writes fun entry member within => (each entry member within).2.symm)

/-- An item that is ready keeps the agreement, and its vectors are there afterwards. -/
theorem AgreesOn.perform_of_ready {workspace : Workspace α}
    (agrees : network.AgreesOn terminals workspace) (fits : network.FitsMemory terminals.length)
    {item : WorkItem Span} (ready : network.Ready terminals.length workspace.chart.Holds item)
    (words : (workspace.statistics.afterUpdate item.locations).Words) :
    ∃ chart, runOn (network.protocol.perform item) workspace =
        (.ok (), ⟨terminals, chart, workspace.statistics.afterUpdate item.locations⟩) ∧
      network.Agrees terminals chart ∧
      chart.Holds = fun other span =>
        workspace.chart.Holds other span ∨ other = item.variableIndex ∧ span ∈ item.locations := by
  obtain ⟨chart, performed, rewritten⟩ := agrees.knownAt.perform_of_ready fits ready
  refine ⟨chart, performed.trans (if_pos words), rewritten.agrees agrees.chart, ?_⟩
  funext other span
  exact propext rewritten.holds_iff

/-- An item that succeeds was ready. -/
theorem AgreesOn.ready_of_perform {workspace : Workspace α}
    (agrees : network.AgreesOn terminals workspace) (fits : network.FitsMemory terminals.length)
    {item : WorkItem Span}
    (succeeds : (runOn (network.protocol.perform item) workspace).1 = .ok ()) :
    network.Ready terminals.length workspace.chart.Holds item := by
  rw [runOn_perform] at succeeds
  cases computed : network.computeInside workspace item.variableIndex item.locations with
  | error cause =>
    rw [computed] at succeeds
    cases succeeds
  | ok vectors =>
    obtain ⟨cell, found, lengths, each⟩ := agrees.of_computeInside fits computed
    rw [computed] at succeeds
    simp only [updateInsideChart, if_pos lengths] at succeeds
    obtain ⟨_, _, ran, _⟩ := of_runOn_bind_eq_ok succeeds
    -- Only the writes find out that a span lies outside the sequence.
    have written : (runOn ((item.locations.zip vectors).forM (writeVector item.variableIndex))
        workspace).1 = .ok () := by
      rw [ran]
    have within (entry : Span × ValueVector α)
        (member : entry ∈ item.locations.zip vectors) : entry.1.Within terminals.length :=
      agrees.chart.sequenceLength ▸ (writes_eq_ok_iff.mp written entry member).2
    refine ⟨cell, found, fun span member => ?_⟩
    obtain ⟨entry, entryMember, rfl⟩ : ∃ entry ∈ item.locations.zip vectors, entry.1 = span := by
      rw [← List.map_fst_zip (Nat.le_of_eq lengths)] at member
      exact List.mem_map.mp member
    exact ⟨within entry entryMember, (each entry entryMember (within entry entryMember)).1⟩

/-- An item that is ready and succeeds was counted in words. -/
theorem AgreesOn.words_of_perform {workspace : Workspace α}
    (agrees : network.AgreesOn terminals workspace) (fits : network.FitsMemory terminals.length)
    {item : WorkItem Span} (ready : network.Ready terminals.length workspace.chart.Holds item)
    (succeeds : (runOn (network.protocol.perform item) workspace).1 = .ok ()) :
    (workspace.statistics.afterUpdate item.locations).Words := by
  obtain ⟨chart, performed, _⟩ := agrees.knownAt.perform_of_ready fits ready
  by_contra tooLarge
  rw [performed, if_neg tooLarge] at succeeds
  cases succeeds

/-! ### Lists of items -/

/-- Each item is ready after the ones before it. -/
def InOrder (network : Network α) (length : Nat) :
    (written : Nat → Span → Prop) → List (WorkItem Span) → Prop
  | _, [] => True
  | written, item :: rest =>
    network.Ready length written item ∧
      network.InOrder length
        (fun index span => written index span ∨ index = item.variableIndex ∧ span ∈ item.locations)
        rest

/-- Items are in order exactly if each one is ready when those before it were done. -/
theorem inOrder_iff {length : Nat} {written : Nat → Span → Prop} {items : List (WorkItem Span)} :
    network.InOrder length written items ↔
      ∀ done item rest, items = done ++ item :: rest →
        network.Ready length (fun index span => written index span ∨ Asked done index span)
          item := by
  induction items generalizing written with
  | nil =>
    refine ⟨fun _ done item rest same => ?_, fun _ => trivial⟩
    exact absurd same.symm (List.append_ne_nil_of_right_ne_nil _ (List.cons_ne_nil _ _))
  | cons first others inductionHypothesis =>
    rw [InOrder, inductionHypothesis]
    constructor
    · rintro ⟨ready, later⟩ done item rest same
      cases done with
      | nil =>
        obtain ⟨rfl, rfl⟩ := List.cons.inj same
        simpa only [asked_nil, or_false] using ready
      | cons head tail =>
        obtain ⟨rfl, rfl⟩ := List.cons.inj same
        simpa only [asked_cons, or_assoc] using later tail item rest rfl
    · intro ready
      refine ⟨?_, fun done item rest same => ?_⟩
      · simpa only [asked_nil, or_false] using
          ready [] first others rfl
      · subst same
        simpa only [asked_cons, or_assoc] using ready (first :: done) item rest rfl

/-- What was known before some vectors were written is known afterwards, and these vectors with
it. -/
theorem KnownAt.after {places later : Nat → Span → Prop} {workspace : Workspace α}
    (known : network.KnownAt terminals places workspace) {chart : InsideChart α}
    (rewritten : network.Rewritten terminals later workspace.chart chart)
    (statistics : Statistics) :
    network.KnownAt terminals (fun index span => places index span ∨ later index span)
      ⟨terminals, chart, statistics⟩ :=
  ⟨rfl, rewritten.shaped known.shaped, rewritten.correctAt known.correct⟩

/-- Items in order are all performed, if the counts stay words: what they ask for is written, and
counted. They never read what was at other places before. -/
theorem KnownAt.performAll_of_inOrder {places : Nat → Span → Prop} {workspace : Workspace α}
    (known : network.KnownAt terminals places workspace)
    (fits : network.FitsMemory terminals.length) {items : List (WorkItem Span)}
    (inOrder : network.InOrder terminals.length places items)
    (words : (workspace.statistics.afterItems items).Words) :
    ∃ chart, runOn (items.forM network.protocol.perform) workspace =
        (.ok (), ⟨terminals, chart, workspace.statistics.afterItems items⟩) ∧
      network.Rewritten terminals (Asked items) workspace.chart chart := by
  induction items generalizing places workspace with
  | nil =>
    refine ⟨workspace.chart, ?_, ?_⟩
    · rw [runOn_forM_nil, ← known.observed]
      rfl
    · have nothing : Asked [] = fun _ _ => False :=
        funext fun index => funext fun span => eq_false (asked_nil index span)
      rw [nothing]
      exact Rewritten.nowhere network terminals workspace.chart
  | cons item rest inductionHypothesis =>
    obtain ⟨ready, later⟩ := inOrder
    obtain ⟨chart, ran, rewritten⟩ := known.perform_of_ready fits ready
    rw [Statistics.afterItems_cons] at words ⊢
    rw [if_pos words.of_afterItems] at ran
    obtain ⟨last, ranRest, rewrittenRest⟩ :=
      inductionHypothesis (known.after rewritten _) later words
    refine ⟨last, ?_, ?_⟩
    · rw [runOn_forM_cons, ran]
      exact ranRest
    · have both : Asked (item :: rest) = fun index span =>
          (index = item.variableIndex ∧ span ∈ item.locations) ∨ Asked rest index span :=
        funext fun index => funext fun span => propext asked_cons
      rw [both]
      exact rewritten.trans rewrittenRest

/-- If the counts do not stay words, items in order abort at one of them. The induction is on the
items: the first one aborts, or the others do, from counts that still are words. -/
theorem KnownAt.performAll_of_overflow {places : Nat → Span → Prop} {workspace : Workspace α}
    (known : network.KnownAt terminals places workspace)
    (fits : network.FitsMemory terminals.length) {items : List (WorkItem Span)}
    (inOrder : network.InOrder terminals.length places items)
    (words : workspace.statistics.Words)
    (tooLarge : ¬ (workspace.statistics.afterItems items).Words) :
    (runOn (items.forM network.protocol.perform) workspace).1 = .error (.abort .overflow) := by
  induction items generalizing places workspace with
  | nil => exact absurd words tooLarge
  | cons item rest inductionHypothesis =>
    obtain ⟨ready, later⟩ := inOrder
    obtain ⟨chart, ran, rewritten⟩ := known.perform_of_ready fits ready
    rw [runOn_forM_cons, ran]
    by_cases here : (workspace.statistics.afterUpdate item.locations).Words
    · rw [if_pos here]
      exact inductionHypothesis (known.after rewritten _) later here tooLarge
    · rw [if_neg here]

/-- On a chart that agrees, items in order keep the agreement. -/
theorem AgreesOn.performAll_of_inOrder {workspace : Workspace α}
    (agrees : network.AgreesOn terminals workspace) (fits : network.FitsMemory terminals.length)
    {items : List (WorkItem Span)}
    (inOrder : network.InOrder terminals.length workspace.chart.Holds items)
    (words : (workspace.statistics.afterItems items).Words) :
    ∃ chart, runOn (items.forM network.protocol.perform) workspace =
        (.ok (), ⟨terminals, chart, workspace.statistics.afterItems items⟩) ∧
      network.Agrees terminals chart ∧
      ∀ index span, chart.Holds index span ↔
        workspace.chart.Holds index span ∨ Asked items index span := by
  obtain ⟨chart, performed, rewritten⟩ := agrees.knownAt.performAll_of_inOrder fits inOrder words
  exact ⟨chart, performed, rewritten.agrees agrees.chart, fun _ _ => rewritten.holds_iff⟩

/-- Items that are all performed were in order, and their counts stayed words. -/
theorem AgreesOn.inOrder_of_performAll {workspace : Workspace α}
    (agrees : network.AgreesOn terminals workspace) (fits : network.FitsMemory terminals.length)
    {items : List (WorkItem Span)}
    (words : workspace.statistics.Words)
    (succeeds : (runOn (items.forM network.protocol.perform) workspace).1 = .ok ()) :
    network.InOrder terminals.length workspace.chart.Holds items ∧
      (workspace.statistics.afterItems items).Words := by
  induction items generalizing workspace with
  | nil => exact ⟨trivial, words⟩
  | cons item rest inductionHypothesis =>
    obtain ⟨after, ran, others⟩ := of_runOn_forM_cons_eq_ok succeeds
    have ready := agrees.ready_of_perform fits (congrArg Prod.fst ran)
    have counted := agrees.words_of_perform fits ready (congrArg Prod.fst ran)
    obtain ⟨chart, performed, kept, holds⟩ := agrees.perform_of_ready fits ready counted
    cases performed.symm.trans ran
    obtain ⟨later, countedAll⟩ := inductionHypothesis (kept.agreesOn _) counted others
    rw [holds] at later
    exact ⟨⟨ready, later⟩, countedAll⟩

end Network

end RecursiveBayes
