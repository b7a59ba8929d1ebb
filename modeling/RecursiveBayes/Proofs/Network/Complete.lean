/-
This file follows a pass to its end. The read-out succeeds exactly when the root
vectors of all cells were written, and then it returns the probability of the
sequence. The schedule of the library asks for every vector once, shorter spans
first, so each of its items is ready. Only the size of the chart and of the counts
can keep the pass from its end, and a sequence fits a network if both stay within
bounds.

What a pass leaves behind does not depend on the workspace that it started from:
the observations, the chart and the counts are all replaced.
-/

import RecursiveBayes.Proofs.Network.Performing

open RecursiveBayes.Action

namespace RecursiveBayes

variable {α : Type} [Scalar α]

/-! ### The read-out -/

/-- The root vectors are read one after the other, and all of them have to be there. -/
theorem Protocol.rootVectors_eq_ok_iff {σ Location Observations Chart : Type}
    {protocol : Protocol α σ Location Observations Chart} {chart : Chart} {root : Location}
    {count index : Nat} {roots : List (ValueVector α)} :
    protocol.rootVectors chart root count index = .ok roots ↔
      (List.range' index count).map (fun other => protocol.lookup chart other root) =
        roots.map some := by
  induction count generalizing index roots with
  | zero =>
    rw [rootVectors, List.range'_zero, List.map_nil, eq_comm (a := []), List.map_eq_nil_iff]
    constructor
    · intro same
      cases same
      rfl
    · rintro rfl
      rfl
  | succ count inductionHypothesis =>
    rw [rootVectors, List.range'_succ, List.map_cons]
    cases found : protocol.lookup chart index root with
    | none =>
      refine ⟨fun same => (nomatch same), fun same => ?_⟩
      cases roots with
      | nil => cases same
      | cons first rest => cases same
    | some vector =>
      simp only
      rw [bind_eq_ok_iff]
      constructor
      · rintro ⟨rest, others, same⟩
        cases same
        rw [inductionHypothesis.mp others, List.map_cons]
      · intro same
        cases roots with
        | nil => cases same
        | cons first rest =>
          rw [List.map_cons] at same
          injection same with sameFirst sameRest
          cases sameFirst
          exact ⟨rest, inductionHypothesis.mpr sameRest, rfl⟩

namespace Network

variable {network : Network α} {terminals : TerminalChart}

/-- The read-out combines the root vectors with the prior and leaves the workspace as it is. -/
theorem runOn_readOut {workspace : Workspace α} (nonempty : workspace.terminals.length ≠ 0) :
    runOn network.protocol.readOut workspace =
      (liftM (network.protocol.rootVectors workspace.chart ⟨0, workspace.terminals.length⟩
        network.cellCount 0 >>= network.prior.marginal), workspace) := by
  have located : runOn (Protocol.ask .rootLocation network.protocol.rootLocation) workspace =
      (.ok ⟨0, workspace.terminals.length⟩, workspace) := by
    show (liftM (rootLocation workspace), workspace) = _
    rw [rootLocation, if_neg nonempty]
    rfl
  rw [Protocol.readOut, runOn_bind_of_ok located]
  show runOn (liftM (network.protocol.rootVectors workspace.chart
    ⟨0, workspace.terminals.length⟩ network.cellCount 0) >>= _) workspace = _
  rw [runOn_bind]
  cases network.protocol.rootVectors workspace.chart ⟨0, workspace.terminals.length⟩
    network.cellCount 0 with
  | error cause => rfl
  | ok roots => rfl

/-- The empty sequence has no root. -/
theorem runOn_readOut_of_empty {workspace : Workspace α}
    (isEmpty : workspace.terminals.length = 0) :
    runOn network.protocol.readOut workspace =
      (.error (.fault (.invalidLocation ⟨0, 0⟩ 0)), workspace) := by
  have located : runOn (Protocol.ask .rootLocation network.protocol.rootLocation) workspace =
      (.error (.fault (.invalidLocation ⟨0, 0⟩ 0)), workspace) := by
    show (liftM (rootLocation workspace), workspace) = _
    rw [rootLocation, if_pos isEmpty]
    rfl
  rw [Protocol.readOut, runOn_bind_of_error located]

/-- The read-out changes nothing, whether or not it succeeds. -/
theorem readOut_keeps (network : Network α) (workspace : Workspace α) :
    (runOn network.protocol.readOut workspace).2 = workspace := by
  by_cases isEmpty : workspace.terminals.length = 0
  · rw [runOn_readOut_of_empty isEmpty]
  · rw [runOn_readOut isEmpty]

/-- The vectors of all cells for the whole sequence were written. -/
def RootsWritten (network : Network α) (length : Nat) (written : Nat → Span → Prop) : Prop :=
  ∀ index, index < network.cellCount → written index ⟨0, length⟩

/-- The read-out returns the probability of the sequence, if all root vectors were written. -/
theorem AgreesOn.readOut {workspace : Workspace α} (agrees : network.AgreesOn terminals workspace)
    (nonempty : terminals.length ≠ 0)
    (roots : network.RootsWritten terminals.length workspace.chart.Holds) :
    runOn network.protocol.readOut workspace =
      (.ok (network.likelihood terminals.symbols), workspace) := by
  have read : network.protocol.rootVectors workspace.chart ⟨0, terminals.length⟩
      network.cellCount 0 = .ok ((List.range network.cellCount).map fun index =>
        network.insideVector index terminals.symbols) := by
    rw [Protocol.rootVectors_eq_ok_iff, ← List.range_eq_range', List.map_map]
    refine List.map_congr_left fun index member => ?_
    show workspace.chart.get? index ⟨0, terminals.length⟩ = _
    rw [agrees.chart.get?_of_holds (roots index (List.mem_range.mp member)),
      terminals.phrase_whole]
    rfl
  rw [runOn_readOut (agrees.observed ▸ nonempty), agrees.observed, read, ok_bind,
    network.marginal_eq_ok]
  rfl

/-- Where the read-out succeeds, all root vectors were written. -/
theorem AgreesOn.roots_of_readOut {workspace : Workspace α}
    (agrees : network.AgreesOn terminals workspace) (nonempty : terminals.length ≠ 0)
    {marginal : α} (succeeds : (runOn network.protocol.readOut workspace).1 = .ok marginal) :
    network.RootsWritten terminals.length workspace.chart.Holds := by
  intro index indexLt
  rw [runOn_readOut (agrees.observed ▸ nonempty), agrees.observed] at succeeds
  cases read : network.protocol.rootVectors workspace.chart ⟨0, terminals.length⟩
      network.cellCount 0 with
  | error cause =>
    rw [read] at succeeds
    cases succeeds
  | ok roots =>
    have lookups := Protocol.rootVectors_eq_ok_iff.mp read
    have here := congrArg (fun found => found[index]?) lookups
    rw [← List.range_eq_range', List.getElem?_map, List.getElem?_range indexLt,
      Option.map_some] at here
    cases vector : workspace.chart.get? index ⟨0, terminals.length⟩ with
    | some _ => exact InsideChart.holds_iff.mpr ⟨_, vector⟩
    | none =>
      have missing : some (none : Option (ValueVector α)) = (roots.map some)[index]? :=
        vector ▸ here
      rw [List.getElem?_map] at missing
      cases root : roots[index]? with
      | none =>
        rw [root] at missing
        cases missing
      | some vector =>
        rw [root] at missing
        cases missing

/-! ### Any list of items -/

/-- Work off some items on the chart as it stands, and read out the result. -/
def follow (network : Network α) (items : List (WorkItem Span)) : Action α (Workspace α) α := do
  items.forM network.protocol.perform
  network.protocol.readOut

/-- Following some items is working off all of them and then reading out. -/
theorem AgreesOn.follow_of_inOrder {workspace : Workspace α}
    (agrees : network.AgreesOn terminals workspace) (fits : network.FitsMemory terminals.length)
    (nonempty : terminals.length ≠ 0) {items : List (WorkItem Span)}
    (inOrder : network.InOrder terminals.length workspace.chart.Holds items)
    (words : (workspace.statistics.afterItems items).Words)
    (roots : network.RootsWritten terminals.length
      fun index span => workspace.chart.Holds index span ∨ Asked items index span) :
    ∃ after : Workspace α, runOn (network.follow items) workspace =
        (.ok (network.likelihood terminals.symbols), after) ∧
      network.AgreesOn terminals after ∧
      ∀ index span, after.chart.Holds index span ↔
        workspace.chart.Holds index span ∨ Asked items index span := by
  obtain ⟨chart, ran, kept, holds⟩ := agrees.performAll_of_inOrder fits inOrder words
  have written : network.RootsWritten terminals.length chart.Holds := fun index indexLt =>
    (holds index _).mpr (roots index indexLt)
  have worked : runOn (network.follow items) workspace =
      runOn network.protocol.readOut ⟨terminals, chart, _⟩ := runOn_bind_of_ok ran
  exact ⟨_, worked.trans ((kept.agreesOn _).readOut nonempty written), kept.agreesOn _, holds⟩

/-- What is followed without a failure was in order, was counted in words, and asked for all root
vectors. -/
theorem AgreesOn.inOrder_of_follow {workspace : Workspace α}
    (agrees : network.AgreesOn terminals workspace) (fits : network.FitsMemory terminals.length)
    (nonempty : terminals.length ≠ 0) (words : workspace.statistics.Words)
    {items : List (WorkItem Span)} {marginal : α}
    (succeeds : (runOn (network.follow items) workspace).1 = .ok marginal) :
    network.InOrder terminals.length workspace.chart.Holds items ∧
      (workspace.statistics.afterItems items).Words ∧
      network.RootsWritten terminals.length
        fun index span => workspace.chart.Holds index span ∨ Asked items index span := by
  obtain ⟨_, after, ran, returned⟩ := of_runOn_bind_eq_ok succeeds
  obtain ⟨inOrder, counted⟩ := agrees.inOrder_of_performAll fits words (congrArg Prod.fst ran)
  obtain ⟨chart, performed, kept, holds⟩ := agrees.performAll_of_inOrder fits inOrder counted
  cases performed.symm.trans ran
  have roots := (kept.agreesOn _).roots_of_readOut nonempty returned
  exact ⟨inOrder, counted, fun index indexLt => (holds index _).mp (roots index indexLt)⟩

/-! ### The schedule of the library -/

/-- The items of the pass over sequences of a given length. -/
def standardItems (network : Network α) (length : Nat) : List (WorkItem Span) :=
  (List.range (length * network.cellCount)).map
    (SpanSchedule.itemAt length network.cellCount)

theorem insideSchedule_eq_ok {workspace : Workspace α}
    (fits : network.FitsMemory workspace.terminals.length) :
    network.insideSchedule workspace =
      .ok (network.standardItems workspace.terminals.length) := by
  refine SpanSchedule.items_start fun positive => ?_
  have found := List.getElem?_eq_getElem (l := network.cells) positive
  refine ⟨fits.word found, ?_⟩
  have slots := fits.slots found
  have side : 2 * workspace.terminals.length ≤
      (workspace.terminals.length + 1) * (workspace.terminals.length + 1) := by
    rw [Nat.add_mul, Nat.mul_add]
    omega
  rw [Memory.numberSize] at slots
  rw [Memory.spanSize]
  omega

/-- In a numbered list, what comes before an entry are the entries with smaller numbers. -/
theorem of_map_range_eq_append {β : Type} {entry : Nat → β} {count : Nat} {done rest : List β}
    {item : β} (same : (List.range count).map entry = done ++ item :: rest) :
    done.length < count ∧ done = (List.range done.length).map entry ∧
      item = entry done.length := by
  have lengths := congrArg List.length same
  rw [List.length_map, List.length_range, List.length_append, List.length_cons] at lengths
  have inside : done.length < count := by omega
  have before := congrArg (List.take done.length) same
  have here := congrArg (fun entries => entries[done.length]?) same
  rw [List.take_left, ← List.map_take, List.take_range, Nat.min_eq_left (Nat.le_of_lt inside)]
    at before
  simp only [List.getElem?_map, List.getElem?_range inside, Option.map_some,
    List.getElem?_append_right (Nat.le_refl _), Nat.sub_self,
    List.getElem?_cons_zero, Option.some.injEq] at here
  exact ⟨inside, before.symm, here.symm⟩

/-- Each item of the pass is ready after the ones before it: the parts of a span are shorter, and
all vectors for shorter spans were asked for. -/
theorem inOrder_standardItems (network : Network α) (length : Nat) :
    network.InOrder length (fun _ _ => False) (network.standardItems length) := by
  refine inOrder_iff.mpr fun done item rest same => ?_
  obtain ⟨turnLt, before, here⟩ := of_map_range_eq_append same
  generalize done.length = turn at turnLt before here
  subst before here
  have positive : 0 < network.cellCount :=
    Nat.pos_of_mul_pos_left (Nat.zero_lt_of_lt turnLt)
  have indexLt : turn % network.cellCount < network.cellCount := Nat.mod_lt turn positive
  have found := List.getElem?_eq_getElem (l := network.cells) indexLt
  refine ⟨_, found, fun span member => ?_⟩
  obtain ⟨within, size⟩ := SpanSchedule.mem_spansOfLength.mp member
  refine ⟨within, fun transition action choice _ point after before => ?_⟩
  -- The items before this one cover all lengths below the length of its spans.
  have shorter {child : Nat} {cell : Cell α} (foundChild : network.cells[child]? = some cell)
      {part : Span} (partWithin : part.Within length)
      (less : part.stop - part.start < span.stop - span.start) :
      Asked ((List.range turn).map (SpanSchedule.itemAt length network.cellCount)) child part := by
    obtain ⟨childLt, _⟩ := List.getElem?_eq_some_iff.mp foundChild
    exact SpanSchedule.asked_of_shorter (Nat.le_of_lt turnLt) childLt partWithin
      (Nat.le_of_lt_succ (Nat.lt_of_lt_of_eq less size))
  obtain ⟨⟨left, foundLeft, _⟩, right, foundRight, _⟩ :=
    network.exists_children found (List.of_mem_zip choice).1
  obtain ⟨_, inside⟩ := within
  constructor
  · exact Or.inr (shorter foundLeft ⟨after, Nat.le_of_lt (Nat.lt_of_lt_of_le before inside)⟩
      (Nat.sub_lt_sub_right (Nat.le_of_lt after) before))
  · exact Or.inr (shorter foundRight ⟨before, inside⟩
      (Nat.sub_lt_sub_left (Nat.lt_trans after before) after))

/-! ### The pass -/

/-- The chart and the counts are fresh after loading a sequence, whatever they were before. -/
theorem runOn_load (fits : network.FitsMemory terminals.length) (before : Workspace α) :
    runOn (network.load terminals) before =
      (.ok (), ⟨terminals, .blank network.cardinalities terminals.length,
        { sequenceLength := terminals.length }⟩) := by
  have allocated := (network.fitsMemory_iff).mp fits
  rw [load, runOn_bind_of_ok (runOn_modify _ _), allocated]
  rfl

/-- Loading aborts if the chart does not fit into memory. -/
theorem runOn_load_of_full (full : ¬ network.FitsMemory terminals.length)
    (before : Workspace α) :
    ∃ cause, runOn (network.load terminals) before =
      (.error (.abort cause), { before with terminals := terminals }) := by
  rw [network.fitsMemory_iff] at full
  rw [load, runOn_bind_of_ok (runOn_modify _ _)]
  cases allocated : (InsideChart.allocate network.cardinalities terminals.length :
      Checked (InsideChart α)) with
  | error cause => exact ⟨cause, rfl⟩
  | ok chart =>
    rw [allocated, InsideChart.eq_blank_of_allocate allocated] at full
    exact absurd rfl full

/-- Loading succeeds only if the chart fits into memory. -/
theorem fitsMemory_of_load {before after : Workspace α}
    (loaded : runOn (network.load terminals) before = (.ok (), after)) :
    network.FitsMemory terminals.length := by
  by_contra full
  obtain ⟨cause, aborted⟩ := runOn_load_of_full full before
  cases aborted.symm.trans loaded

/-- A blank workspace for a sequence. -/
theorem agreesOn_blank (network : Network α) (terminals : TerminalChart)
    (statistics : Statistics) :
    network.AgreesOn terminals
      ⟨terminals, .blank network.cardinalities terminals.length, statistics⟩ :=
  (network.agrees_blank terminals).agreesOn statistics

/-- The pass follows the items of its schedule. -/
theorem runOn_runInside_of_schedule {workspace : Workspace α} {items : List (WorkItem Span)}
    (scheduled : network.insideSchedule workspace = .ok items) :
    runOn network.runInside workspace = runOn (network.follow items) workspace := by
  rw [runInside, Protocol.run]
  show runOn (Protocol.ask .insideSchedule (some fun workspace : Workspace α =>
    (liftM (network.insideSchedule workspace) : Outcome α _)) >>= network.follow) _ = _
  rw [runOn_bind, Protocol.runOn_ask, scheduled]
  rfl

/-- Where the chart fits into memory, these are the items of the length of the observations. -/
theorem runOn_runInside_eq {workspace : Workspace α} (observed : workspace.terminals = terminals)
    (fits : network.FitsMemory terminals.length) :
    runOn network.runInside workspace =
      runOn (network.follow (network.standardItems terminals.length)) workspace := by
  subst observed
  exact runOn_runInside_of_schedule (network.insideSchedule_eq_ok fits)

/-- The counts after one more pass over a sequence of the given length. -/
def countPass (network : Network α) (length : Nat) (statistics : Statistics) : Statistics :=
  statistics.afterItems (network.standardItems length)

theorem countPass_of_empty (network : Network α) (statistics : Statistics) :
    network.countPass 0 statistics = statistics := by
  rw [countPass, standardItems, Nat.zero_mul]
  rfl

/-- There is room for sequences of the given length: the chart fits into memory, and the counts of
a pass are words. -/
structure Fits (network : Network α) (length : Nat) : Prop where
  memory : network.FitsMemory length
  counts : (network.countPass length { sequenceLength := length }).Words

/-- What the items of the pass find: a chart of the right shape, about whose entries nothing is
known. -/
theorem Shaped.knownAt {workspace : Workspace α} (observed : workspace.terminals = terminals)
    (shaped : network.Shaped terminals workspace.chart) :
    network.KnownAt terminals (fun _ _ => False) workspace :=
  ⟨observed, shaped, fun _ _ absurdly => absurdly.elim⟩

/-- On a chart of the right shape the items of the pass are all performed, and write the vectors of
all cells for all spans of the sequence. Whatever stood there before is written over before it is
read. -/
theorem performAll_standardItems {workspace : Workspace α}
    (observed : workspace.terminals = terminals)
    (shaped : network.Shaped terminals workspace.chart)
    (fits : network.FitsMemory terminals.length)
    (words : (network.countPass terminals.length workspace.statistics).Words) :
    ∃ chart, runOn ((network.standardItems terminals.length).forM network.protocol.perform)
        workspace =
          (.ok (), ⟨terminals, chart, network.countPass terminals.length workspace.statistics⟩) ∧
      network.Agrees terminals chart ∧
      ∀ index span, chart.Holds index span ↔
        index < network.cellCount ∧ span.Within terminals.length := by
  obtain ⟨chart, performed, rewritten⟩ := (shaped.knownAt observed).performAll_of_inOrder fits
    (network.inOrder_standardItems terminals.length) words
  have asked {index : Nat} {span : Span} :
      Asked (network.standardItems terminals.length) index span ↔
        index < network.cellCount ∧ span.Within terminals.length := SpanSchedule.asked_all_iff
  have holds (index : Nat) (span : Span) : chart.Holds index span ↔
      index < network.cellCount ∧ span.Within terminals.length := by
    rw [rewritten.holds_iff, asked]
    exact or_iff_right_of_imp shaped.of_holds
  have agrees : network.Agrees terminals chart := by
    refine ⟨(rewritten.shaped shaped).sequenceLength, (rewritten.shaped shaped).cardinalities, ?_⟩
    intro index span vector found
    have place := (holds index span).mp (InsideChart.holds_iff.mpr ⟨vector, found⟩)
    rw [rewritten.written index span (asked.mpr place)] at found
    exact (Option.some.inj found).symm
  exact ⟨chart, performed, agrees, holds⟩

/-- A pass performs the items of its schedule and reads the root vectors that they wrote. -/
theorem runOn_runInside_of_performed {workspace after : Workspace α}
    (observed : workspace.terminals = terminals) (fits : network.FitsMemory terminals.length)
    (nonempty : terminals.length ≠ 0)
    (performed : runOn ((network.standardItems terminals.length).forM network.protocol.perform)
      workspace = (.ok (), after))
    (agrees : network.AgreesOn terminals after)
    (holds : ∀ index span, after.chart.Holds index span ↔
      index < network.cellCount ∧ span.Within terminals.length) :
    runOn network.runInside workspace = (.ok (network.likelihood terminals.symbols), after) := by
  rw [runOn_runInside_eq observed fits, follow, runOn_bind_of_ok performed]
  exact agrees.readOut nonempty fun index indexLt =>
    (holds index _).mpr ⟨indexLt, Nat.pos_of_ne_zero nonempty, Nat.le_refl _⟩

/-- The pass on a chart of the right shape returns the probability of the sequence and writes the
vectors of all cells for all spans of the sequence. -/
theorem runOn_runInside_of_shaped {workspace : Workspace α}
    (observed : workspace.terminals = terminals)
    (shaped : network.Shaped terminals workspace.chart)
    (fits : network.FitsMemory terminals.length) (nonempty : terminals.length ≠ 0)
    (words : (network.countPass terminals.length workspace.statistics).Words) :
    ∃ chart, runOn network.runInside workspace = (.ok (network.likelihood terminals.symbols),
        ⟨terminals, chart, network.countPass terminals.length workspace.statistics⟩) ∧
      network.Agrees terminals chart ∧
      ∀ index span, chart.Holds index span ↔
        index < network.cellCount ∧ span.Within terminals.length := by
  obtain ⟨chart, performed, agrees, holds⟩ := performAll_standardItems observed shaped fits words
  exact ⟨chart, runOn_runInside_of_performed observed fits nonempty performed (agrees.agreesOn _)
    holds, agrees, holds⟩

/-- The pass aborts where its counts do not stay words. -/
theorem runOn_runInside_of_overflow {workspace : Workspace α}
    (observed : workspace.terminals = terminals)
    (shaped : network.Shaped terminals workspace.chart)
    (fits : network.FitsMemory terminals.length) (words : workspace.statistics.Words)
    (tooLarge : ¬ (network.countPass terminals.length workspace.statistics).Words) :
    (runOn network.runInside workspace).1 = .error (.abort .overflow) := by
  have aborted := (shaped.knownAt observed).performAll_of_overflow fits
    (network.inOrder_standardItems terminals.length) words tooLarge
  rw [runOn_runInside_eq observed fits, follow, runOn_bind]
  rcases ran : runOn ((network.standardItems terminals.length).forM network.protocol.perform)
    workspace with ⟨outcome, after⟩
  rw [ran] at aborted
  cases aborted
  rfl

/-- The empty sequence has no root, so a pass over it fails, and changes nothing. -/
theorem runOn_runInside_of_empty {workspace : Workspace α}
    (isEmpty : workspace.terminals.length = 0) :
    runOn network.runInside workspace =
      (.error (.fault (.invalidLocation ⟨0, 0⟩ 0)), workspace) := by
  have scheduled : network.insideSchedule workspace = .ok [] := by
    rw [insideSchedule, isEmpty, SpanSchedule.items_start fun _ => by decide, Nat.zero_mul]
    rfl
  rw [runOn_runInside_of_schedule scheduled, follow, runOn_bind_of_ok (runOn_forM_nil _ _),
    runOn_readOut_of_empty isEmpty]

/-- The pass on a blank chart returns the probability of the sequence and writes the vectors of
all cells for all spans of the sequence. -/
theorem runOn_runInside (fits : network.FitsMemory terminals.length)
    (nonempty : terminals.length ≠ 0) {statistics : Statistics}
    (words : (network.countPass terminals.length statistics).Words) :
    ∃ after : Workspace α,
      runOn network.runInside
          ⟨terminals, .blank network.cardinalities terminals.length, statistics⟩ =
        (.ok (network.likelihood terminals.symbols), after) ∧
      network.AgreesOn terminals after ∧
      ∀ index span, after.chart.Holds index span ↔
        index < network.cellCount ∧ span.Within terminals.length := by
  have agrees := network.agreesOn_blank terminals statistics
  obtain ⟨chart, ran, kept, holds⟩ :=
    runOn_runInside_of_shaped agrees.observed agrees.chart.shaped fits nonempty words
  exact ⟨_, ran, kept.agreesOn _, holds⟩

/-- A sequence that is accepted and that has room is passed over from a blank chart and from
fresh counts, whatever was there before. -/
theorem runOn_insideObserved_eq (accepted : network.accepts terminals.length = true)
    (fits : network.FitsMemory terminals.length) (nonempty : terminals.length ≠ 0)
    (before : Workspace α) :
    runOn (network.insideObserved terminals) before =
      runOn network.runInside ⟨terminals, .blank network.cardinalities terminals.length,
        { sequenceLength := terminals.length }⟩ := by
  rw [insideObserved, if_pos accepted, runOn_bind_of_ok (runOn_load fits before),
    if_neg nonempty]

/-- The pass over a sequence that is accepted and that has room returns its probability. -/
theorem runOn_insideObserved (accepted : network.accepts terminals.length = true)
    (fits : network.Fits terminals.length) (nonempty : terminals.length ≠ 0) :
    ∃ after : Workspace α,
      (∀ before : Workspace α, runOn (network.insideObserved terminals) before =
        (.ok (network.likelihood terminals.symbols), after)) ∧
      network.AgreesOn terminals after ∧
      ∀ index span, after.chart.Holds index span ↔
        index < network.cellCount ∧ span.Within terminals.length := by
  obtain ⟨after, ran, agrees, holds⟩ :=
    runOn_runInside fits.memory nonempty fits.counts
  exact ⟨after, fun before =>
    (runOn_insideObserved_eq accepted fits.memory nonempty before).trans ran,
    agrees, holds⟩

end Network

end RecursiveBayes
