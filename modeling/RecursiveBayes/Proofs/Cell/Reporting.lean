/-
This file says what a cell reports for a span, and what it returns where it has nothing
to report. A cell reads the entries that it needs in one fixed order, which does not
depend on what it finds: transition by transition, by ascending split point, the left
part before the right one. So it reports the first entry in this order that no one has
written. Where everything is there, each value gets the mixture of what the transitions
give it, with the probabilities of the choices as shares.

One failure comes before all of this. The vector of the cell is allocated first, so a
cell with more values than fit into memory never returns, even without transitions.
-/

import RecursiveBayes.Proofs.Cell.Rational
import RecursiveBayes.Proofs.Cell.Reading
import RecursiveBayes.Proofs.Chart.Entries
import RecursiveBayes.Proofs.Search

namespace RecursiveBayes

variable {α : Type}

/-! ### Entries that were not written -/

namespace InsideChart

/-- The first of some entries that was not written. -/
def firstMissing? (chart : InsideChart α) (entries : List (Nat × Span)) : Option (Nat × Span) :=
  entries.find? fun entry => (chart.get? entry.1 entry.2).isNone

/-- The first failure to read one of some entries is the failure to read the first that was not
written. -/
theorem findSome?_missing? (chart : InsideChart α) (entries : List (Nat × Span)) :
    (entries.findSome? fun entry => chart.missing? entry.1 entry.2) =
      (chart.firstMissing? entries).map fun entry =>
        .fault (.unscheduled entry.1 entry.2) := by
  induction entries with
  | nil => rfl
  | cons entry rest inductionHypothesis =>
    rw [firstMissing?, List.findSome?_cons, List.find?_cons, missing?]
    cases chart.get? entry.1 entry.2 with
    | none => rfl
    | some vector => exact inductionHypothesis

theorem firstMissing?_eq_none_iff {chart : InsideChart α} {entries : List (Nat × Span)} :
    chart.firstMissing? entries = none ↔
      ∀ entry ∈ entries, chart.get? entry.1 entry.2 ≠ none := by
  simp only [firstMissing?, List.find?_eq_none, Option.isNone_iff_eq_none, ne_eq]

theorem exists_firstMissing?_iff {chart : InsideChart α} {entries : List (Nat × Span)} :
    (∃ index part, chart.firstMissing? entries = some (index, part)) ↔
      ∃ entry ∈ entries, chart.get? entry.1 entry.2 = none := by
  rw [← Prod.exists (p := fun entry => chart.firstMissing? entries = some entry),
    ← Option.ne_none_iff_exists', ne_eq, firstMissing?_eq_none_iff]
  simp only [ne_eq, not_forall, not_not, exists_prop]

end InsideChart

theorem TerminalChart.missing?_eq_some_iff {terminals : TerminalChart} {position : Nat}
    {failure : Failure α} :
    terminals.missing? position = some failure ↔ terminals.length ≤ position ∧
      failure = .fault (.invalidLocation ⟨position, position + 1⟩ terminals.length) := by
  rw [missing?, length, ← List.getElem?_eq_none_iff]
  cases terminals.symbols[position]? with
  | none =>
    rw [Option.some.injEq]
    exact ⟨fun same => ⟨rfl, same.symm⟩, fun both => both.2.symm⟩
  | some observation => exact ⟨fun found => (by cases found), fun both => (by cases both.1)⟩

variable [Scalar α]

/-! ### The order of reading -/

/-- The entries that a binary transition reads for some pairs of parts, in order. -/
def BinaryTransition.reads (transition : BinaryTransition α) (owner : Nat)
    (parts : List (Span × Span)) : List (Nat × Span) :=
  parts.flatMap fun pair =>
    [(transition.leftIndex owner, pair.1), (transition.rightIndex owner, pair.2)]

theorem BinaryTransition.findSome?_obstacle? (transition : BinaryTransition α) (owner : Nat)
    (chart : InsideChart α) (parts : List (Span × Span)) :
    parts.findSome? (transition.obstacle? owner chart) =
      (transition.reads owner parts).findSome? fun entry => chart.missing? entry.1 entry.2 :=
  findSome?_eq_findSome?_flatMap fun _ _ => by
    rw [findSome?_pair]
    rfl

namespace Cell

/-- The entries that a choice reads. A choice that is never taken reads nothing. -/
def choiceReads (owner : Nat) (span : Span) (choice : Transition α × α) : List (Nat × Span) :=
  if Scalar.isZero choice.2 then
    []
  else
    match choice.1 with
    | .terminal _ => []
    | .binary transition => transition.reads owner (span.splitPoints.map span.splitAt)

/-- The entries that a cell reads for a span, in order. -/
def reads (cell : Cell α) (owner : Nat) (span : Span) : List (Nat × Span) :=
  cell.choices.flatMap (choiceReads owner span)

variable {cell : Cell α} {owner : Nat} {span : Span} {terminals : TerminalChart}
  {chart : InsideChart α}

/-- On a span of more than one position, the only obstacle is an entry that was not written. -/
theorem findSome?_obstacle?_of_longer (long : span.start + 1 < span.stop) :
    cell.choices.findSome? (obstacle? owner span terminals chart) =
      (chart.firstMissing? (cell.reads owner span)).map fun entry =>
        .fault (.unscheduled entry.1 entry.2) := by
  rw [← InsideChart.findSome?_missing?]
  refine findSome?_eq_findSome?_flatMap fun choice _ => ?_
  rw [obstacle?, choiceReads]
  split
  · rfl
  · cases choice.1 with
    | terminal transition => exact if_neg (by omega)
    | binary transition => exact transition.findSome?_obstacle? owner chart _

/-- On a span of one position, the only obstacle is the end of the sequence, and only for a
terminal transition that is ever chosen. -/
theorem obstacle?_eq_some_iff_of_single (single : span.stop = span.start + 1)
    {choice : Transition α × α} {failure : Failure α} :
    obstacle? owner span terminals chart choice = some failure ↔
      (Scalar.isZero choice.2 = false ∧ choice.1.isTerminal) ∧ terminals.length ≤ span.start ∧
        failure = .fault (.invalidLocation ⟨span.start, span.start + 1⟩ terminals.length) := by
  have width : span.stop - span.start = 1 := by omega
  have noParts : span.splitPoints = [] := by
    rw [Span.splitPoints, Span.splitCount, single, Nat.sub_self, List.range'_zero]
  rw [obstacle?]
  cases Scalar.isZero choice.2 with
  | true => simp
  | false =>
    cases choice.1 with
    | binary transition => simp [noParts, Transition.isTerminal]
    | terminal transition =>
      simp only [width, if_true, Bool.false_eq_true, if_false, Transition.isTerminal, true_and,
        TerminalChart.missing?_eq_some_iff]

/-! ### Failure and success -/

/-- The tables of a chart have as many values as the axes of the children that refer to them. -/
def FitsChart (cell : Cell α) (owner : Nat) (chart : InsideChart α) : Prop :=
  ∀ transition, Transition.binary transition ∈ cell.transitions →
    (∀ cardinality, chart.cardinality? (transition.leftIndex owner) = some cardinality →
      cardinality = transition.leftCardinality) ∧
    (∀ cardinality, chart.cardinality? (transition.rightIndex owner) = some cardinality →
      cardinality = transition.rightCardinality)

theorem FitsChart.readsFitting (fits : cell.FitsChart owner chart) :
    cell.ReadsFitting owner chart := by
  intro transition member
  obtain ⟨left, right⟩ := fits transition member
  exact ⟨fun span vector found => left _ (InsideChart.cardinality?_of_get? found),
    fun span vector found => right _ (InsideChart.cardinality?_of_get? found)⟩

/-- Some terminal transition is chosen at all. -/
def Emits (cell : Cell α) : Prop :=
  ∃ choice ∈ cell.choices, Scalar.isZero choice.2 = false ∧ choice.1.isTerminal

/-- A cell fails on a position exactly if it emits and the position is behind the end of the
sequence. -/
theorem inside_of_single (terminals : TerminalChart) (fits : cell.FitsChart owner chart)
    (single : span.stop = span.start + 1) (word : span.stop < Word.limit)
    (room : Memory.numberSize * cell.cardinality ≤ Memory.largestObject) :
    (cell.inside owner span terminals chart =
        .error (.fault (.invalidLocation ⟨span.start, span.start + 1⟩ terminals.length)) ↔
      cell.Emits ∧ terminals.length ≤ span.start) ∧
    (¬(cell.Emits ∧ terminals.length ≤ span.start) →
      cell.inside owner span terminals chart =
        .ok (cell.explain owner (span.analysis terminals) chart.vectorAt)) := by
  rw [inside_eq fits.readsFitting (single ▸ Nat.le_succ _) word room]
  cases obstacle : cell.choices.findSome? (obstacle? owner span terminals chart) with
  | none =>
    refine ⟨⟨fun failed => (by cases failed), ?_⟩, fun _ => rfl⟩
    rintro ⟨⟨choice, member, emits⟩, outside⟩
    have free := List.findSome?_eq_none_iff.mp obstacle choice member
    cases free.symm.trans ((obstacle?_eq_some_iff_of_single single).mpr ⟨emits, outside, rfl⟩)
  | some failure =>
    obtain ⟨choice, member, found⟩ := List.exists_of_findSome?_eq_some obstacle
    obtain ⟨emits, outside, rfl⟩ := (obstacle?_eq_some_iff_of_single single).mp found
    exact ⟨⟨fun _ => ⟨⟨choice, member, emits⟩, outside⟩, fun _ => rfl⟩,
      fun reached => absurd ⟨⟨choice, member, emits⟩, outside⟩ reached⟩

/-- A cell fails on a longer span exactly if one of the entries that it reads was not written, and
then it reports the first of them. -/
theorem inside_of_longer (terminals : TerminalChart) (fits : cell.FitsChart owner chart)
    (long : span.start + 1 < span.stop) (word : span.stop < Word.limit)
    (room : Memory.numberSize * cell.cardinality ≤ Memory.largestObject) :
    (∀ index part, cell.inside owner span terminals chart =
        .error (.fault (.unscheduled index part)) ↔
      chart.firstMissing? (cell.reads owner span) = some (index, part)) ∧
    (chart.firstMissing? (cell.reads owner span) = none →
      cell.inside owner span terminals chart =
        .ok (cell.explain owner (span.analysis terminals) chart.vectorAt)) := by
  rw [inside_eq fits.readsFitting (Nat.le_of_lt (Nat.lt_of_succ_lt long)) word room,
    findSome?_obstacle?_of_longer long]
  cases chart.firstMissing? (cell.reads owner span) with
  | none =>
    exact ⟨fun index part => ⟨fun failed => (by cases failed), fun found => (by cases found)⟩,
      fun _ => rfl⟩
  | some entry =>
    refine ⟨fun index part => ?_, fun found => (by cases found)⟩
    constructor
    · intro failed
      cases failed
      rfl
    · intro same
      cases same
      rfl

/-- Where a cell returns, it met no obstacle and explained the span by the chart. -/
theorem of_inside_eq_ok (fits : cell.FitsChart owner chart) (ordered : span.start ≤ span.stop)
    (word : span.stop < Word.limit) {vector : ValueVector α}
    (returned : cell.inside owner span terminals chart = .ok vector) :
    cell.choices.findSome? (obstacle? owner span terminals chart) = none ∧
      cell.explain owner (span.analysis terminals) chart.vectorAt = vector := by
  have room : Memory.numberSize * cell.cardinality ≤ Memory.largestObject := by
    by_contra large
    cases (inside_of_no_room (Nat.not_le.mp large)).symm.trans returned
  rwa [inside_eq fits.readsFitting ordered word room, succeedUnless_eq_ok_iff] at returned

/-! ### Mixtures -/

section Mixtures

variable (cell : Cell ℚ) (owner : Nat)

/-- The probability that a value of a cell emits an observation: the mixture over the terminal
transitions. -/
def emitted (observation : Option Nat) (value : Nat) : ℚ :=
  ∑ choice : Fin cell.choices.length, (cell.choices.get choice).2 *
    match (cell.choices.get choice).1 with
    | .terminal transition => transition.observed observation value
    | .binary _ => 0

/-- The probability that a value of a cell splits a span into parts with the given vectors: the
mixture over the binary transitions of the sums over the split points. -/
def combined (span : Span) (vectors : Nat → Span → ValueVector ℚ) (value : Nat) : ℚ :=
  ∑ choice : Fin cell.choices.length, (cell.choices.get choice).2 *
    match (cell.choices.get choice).1 with
    | .terminal _ => 0
    | .binary transition => ∑ point ∈ Finset.Ico (span.start + 1) span.stop,
        transition.pairTotal (vectors (transition.leftIndex owner) ⟨span.start, point⟩)
          (vectors (transition.rightIndex owner) ⟨point, span.stop⟩) value

variable {span : Span} {terminals : TerminalChart} {chart : InsideChart ℚ}

/-- On a span of one position, every value gets the probability that it emits the observation
there. -/
theorem explain_of_single (single : span.stop = span.start + 1)
    (vectors : Nat → Span → ValueVector ℚ) :
    cell.explain owner (span.analysis terminals) vectors =
      (List.range cell.cardinality).map
        (cell.emitted (terminals.symbols[span.start]?.getD none)) := by
  have observed : (span.analysis terminals).observation? = terminals.symbols[span.start]? :=
    if_pos (by omega)
  have noParts : (span.analysis terminals).parts = [] := by
    rw [Span.analysis, Span.splitPoints, Span.splitCount, single, Nat.sub_self, List.range'_zero]
    rfl
  refine ValueVector.eq_map_range (length_explain cell owner _ vectors) fun value _ => ?_
  rw [getD_explain, emitted]
  refine Finset.sum_congr rfl fun choice _ => congrArg _ ?_
  cases (cell.choices.get choice).1 with
  | terminal transition =>
    rw [contribution, observed]
    cases terminals.symbols[span.start]? <;> rfl
  | binary transition =>
    rw [contribution, noParts]
    exact ValueVector.getD_zeros _ _

/-- On a longer span, every value gets the probability that it splits the span. The vectors that
are read have to fit the axes. -/
theorem explain_of_longer (long : span.start + 1 < span.stop)
    {vectors : Nat → Span → ValueVector ℚ}
    (fits : ∀ transition action, (Transition.binary transition, action) ∈ cell.choices →
      action ≠ 0 → ∀ point, span.start < point → point < span.stop →
        (vectors (transition.leftIndex owner) ⟨span.start, point⟩).length =
          transition.leftCardinality) :
    cell.explain owner (span.analysis terminals) vectors =
      (List.range cell.cardinality).map (cell.combined owner span vectors) := by
  have unobserved : (span.analysis terminals).observation? = none := if_neg (by omega)
  refine ValueVector.eq_map_range (length_explain cell owner _ vectors) fun value valueLt => ?_
  rw [getD_explain, combined]
  refine Finset.sum_congr rfl fun choice _ => ?_
  have member : cell.choices.get choice ∈ cell.choices := List.get_mem _ choice
  generalize cell.choices.get choice = taken at member
  obtain ⟨transition, action⟩ := taken
  by_cases never : action = 0
  · rw [never, zero_mul, zero_mul]
  · refine congrArg (action * ·) ?_
    cases transition with
    | terminal transition =>
      rw [contribution, unobserved]
    | binary transition =>
      have parents : transition.parentCardinality = cell.cardinality :=
        parentCardinality_of_mem_choices member
      rw [contribution, ← parents, transition.getD_explain, Span.analysis, List.map_map,
        Span.splitPoints, Span.splitCount, ValueVector.total_map_range']
      refine Finset.sum_congr rfl fun point inside => ?_
      obtain ⟨after, before⟩ := Finset.mem_Ico.mp inside
      exact transition.getD_contract (fits transition action member never point after before)
        (parents ▸ valueLt)

end Mixtures

/-- A cell reads the two parts of a span for every split point and every binary transition that is
chosen at all. -/
theorem mem_reads_of_split (owner : Nat) {transition : BinaryTransition α} {action : α}
    (member : (Transition.binary transition, action) ∈ cell.choices)
    (chosen : Scalar.isZero action = false) {point : Nat} (after : span.start < point)
    (before : point < span.stop) :
    (transition.leftIndex owner, ⟨span.start, point⟩) ∈ cell.reads owner span ∧
      (transition.rightIndex owner, ⟨point, span.stop⟩) ∈ cell.reads owner span := by
  have parts : span.splitAt point ∈ span.splitPoints.map span.splitAt :=
    List.mem_map_of_mem (Span.mem_splitPoints.mpr ⟨after, before⟩)
  have here (entry : Nat × Span) (read : entry ∈ [(transition.leftIndex owner,
      (span.splitAt point).1), (transition.rightIndex owner, (span.splitAt point).2)]) :
      entry ∈ cell.reads owner span := by
    refine List.mem_flatMap.mpr ⟨_, member, ?_⟩
    rw [choiceReads, chosen, if_neg Bool.false_ne_true]
    exact List.mem_flatMap.mpr ⟨_, parts, read⟩
  exact ⟨here _ List.mem_cons_self, here _ (List.mem_cons_of_mem _ List.mem_cons_self)⟩

/-- Where nothing is missing, both parts of the span were written for every split point and every
binary transition that is chosen at all, and they fit the axes. -/
theorem exists_parts (fits : cell.FitsChart owner chart)
    (complete : chart.firstMissing? (cell.reads owner span) = none)
    {transition : BinaryTransition α} {action : α}
    (member : (Transition.binary transition, action) ∈ cell.choices)
    (chosen : Scalar.isZero action = false) {point : Nat} (after : span.start < point)
    (before : point < span.stop) :
    ∃ left right, chart.get? (transition.leftIndex owner) ⟨span.start, point⟩ = some left ∧
      chart.get? (transition.rightIndex owner) ⟨point, span.stop⟩ = some right ∧
      left.length = transition.leftCardinality ∧ right.length = transition.rightCardinality := by
  have present := InsideChart.firstMissing?_eq_none_iff.mp complete
  obtain ⟨readLeft, readRight⟩ := mem_reads_of_split owner member chosen after before
  obtain ⟨left, foundLeft⟩ := Option.ne_none_iff_exists'.mp (present _ readLeft)
  obtain ⟨right, foundRight⟩ := Option.ne_none_iff_exists'.mp (present _ readRight)
  obtain ⟨leftFits, rightFits⟩ := fits.readsFitting transition (List.of_mem_zip member).1
  exact ⟨left, right, foundLeft, foundRight, leftFits _ _ foundLeft, rightFits _ _ foundRight⟩

/-! ### What a cell reports and returns -/

/-- A cell fails on a position exactly if it emits and there is no observation, and on a longer
span exactly if an entry that it reads was not written; then it names the first such entry. In
every other case it returns, and over the rational numbers each value gets the mixture of what
the transitions give it. The vector of the cell has to fit into memory. -/
theorem inside_reports_first_missing_and_mixes :
    (∀ (α : Type) [Scalar α] (cell : Cell α) (owner : Nat) (span : Span)
        (terminals : TerminalChart) (chart : InsideChart α),
      span.start < span.stop → span.stop < Word.limit → cell.FitsChart owner chart →
      (Memory.largestObject < Memory.numberSize * cell.cardinality →
        cell.inside owner span terminals chart = .error (.abort .allocation)) ∧
      (Memory.numberSize * cell.cardinality ≤ Memory.largestObject →
        (span.stop = span.start + 1 →
          (cell.inside owner span terminals chart =
              .error (.fault (.invalidLocation ⟨span.start, span.start + 1⟩ terminals.length)) ↔
            cell.Emits ∧ terminals.length ≤ span.start) ∧
          (¬(cell.Emits ∧ terminals.length ≤ span.start) →
            ∃ vector, cell.inside owner span terminals chart = .ok vector)) ∧
        (span.start + 1 < span.stop →
          (∀ index part, cell.inside owner span terminals chart =
              .error (.fault (.unscheduled index part)) ↔
            chart.firstMissing? (cell.reads owner span) = some (index, part)) ∧
          ((∃ index part, cell.inside owner span terminals chart =
              .error (.fault (.unscheduled index part))) ↔
            ∃ entry ∈ cell.reads owner span, chart.get? entry.1 entry.2 = none) ∧
          ((∀ entry ∈ cell.reads owner span, chart.get? entry.1 entry.2 ≠ none) →
            ∃ vector, cell.inside owner span terminals chart = .ok vector)))) ∧
    (∀ (cell : Cell ℚ) (owner : Nat) (span : Span) (terminals : TerminalChart)
        (chart : InsideChart ℚ) (vector : ValueVector ℚ),
      span.start < span.stop → span.stop < Word.limit → cell.FitsChart owner chart →
      cell.inside owner span terminals chart = .ok vector →
        (span.stop = span.start + 1 →
          vector = (List.range cell.cardinality).map
            (cell.emitted (terminals.symbols[span.start]?.getD none))) ∧
        (span.start + 1 < span.stop →
          vector = (List.range cell.cardinality).map
            (cell.combined owner span chart.vectorAt) ∧
          ∀ transition action, (Transition.binary transition, action) ∈ cell.choices →
            action ≠ 0 → ∀ point, span.start < point → point < span.stop →
              ∀ value, value < cell.cardinality →
                ∃ left right,
                  chart.get? (transition.leftIndex owner) ⟨span.start, point⟩ = some left ∧
                  chart.get? (transition.rightIndex owner) ⟨point, span.stop⟩ = some right ∧
                  transition.jointProbability value left right =
                    .ok (transition.pairTotal left right value))) := by
  constructor
  · intro α _ cell owner span terminals chart nonempty word fits
    refine ⟨inside_of_no_room, fun room => ⟨fun single => ?_, fun long => ?_⟩⟩
    · obtain ⟨fails, returns⟩ := inside_of_single terminals fits single word room
      exact ⟨fails, fun reached => ⟨_, returns reached⟩⟩
    · obtain ⟨fails, returns⟩ := inside_of_longer terminals fits long word room
      refine ⟨fails, ?_, fun present => ⟨_, returns ?_⟩⟩
      · simp only [fails]
        exact InsideChart.exists_firstMissing?_iff
      · exact InsideChart.firstMissing?_eq_none_iff.mpr present
  · intro cell owner span terminals chart vector nonempty word fits returned
    obtain ⟨free, rfl⟩ := of_inside_eq_ok fits (Nat.le_of_lt nonempty) word returned
    refine ⟨fun single => cell.explain_of_single owner single chart.vectorAt, fun long => ?_⟩
    have complete : chart.firstMissing? (cell.reads owner span) = none := by
      rwa [findSome?_obstacle?_of_longer long, Option.map_eq_none_iff] at free
    constructor
    · refine cell.explain_of_longer owner long fun transition action member chosen point after
        before => ?_
      obtain ⟨left, _, foundLeft, _, leftFits, _⟩ :=
        exists_parts fits complete member (decide_eq_false chosen) after before
      rw [InsideChart.vectorAt, foundLeft, Option.getD_some, leftFits]
    · intro transition action member chosen point after before value valueLt
      obtain ⟨left, right, foundLeft, foundRight, leftFits, rightFits⟩ :=
        exists_parts fits complete member (decide_eq_false chosen) after before
      have parents : transition.parentCardinality = cell.cardinality :=
        parentCardinality_of_mem_choices member
      exact ⟨left, right, foundLeft, foundRight,
        transition.jointProbability_eq_ok leftFits rightFits (parents ▸ valueLt)⟩

/-- A cell with two values, which is a symbol or splits into two of itself. -/
def splitting : Cell ℚ where
  domain := ⟨2, Nat.two_pos⟩
  transitions :=
    [.terminal
      ⟨⟨⟨#v[3], 2, #[1, 3, 0, 2, 2, 1], by decide⟩, _, by decide +kernel, by decide, rfl⟩⟩,
     .binary
      ⟨⟨⟨#v[2, 2], 2, #[5, 0, 1, 1, 0, 2, 3, 1], by decide⟩, _, by decide +kernel, by decide, rfl⟩,
       none⟩]
  weights := [4, 1]
  weights_valid := by decide +kernel
  length_weights := rfl
  parents_eq := by decide

/-- From a blank chart, the cell explains a position and reports the left part of a longer span. -/
theorem splitting_reports_left_part :
    ((0 < 1 ∧ 2 < Word.limit) ∧ splitting.FitsChart 0 (.blank [2] 2)) ∧
    (∃ vector, splitting.inside 0 ⟨0, 1⟩ ⟨[some 0, some 1]⟩ (.blank [2] 2) = .ok vector ∧
      vector = (List.range 2).map (splitting.emitted (some 0))) ∧
    splitting.inside 0 ⟨0, 2⟩ ⟨[some 0, some 1]⟩ (.blank [2] 2) =
      .error (.fault (.unscheduled 0 ⟨0, 1⟩)) := by
  have fits : splitting.FitsChart 0 (.blank [2] 2) := by
    intro transition member
    obtain rfl : transition =
        ⟨⟨⟨#v[2, 2], 2, #[5, 0, 1, 1, 0, 2, 3, 1], by decide⟩, _, by decide +kernel, by decide,
          rfl⟩, none⟩ := by
      simpa [splitting] using member
    exact ⟨fun cardinality found => (Option.some.inj found).symm,
      fun cardinality found => (Option.some.inj found).symm⟩
  have room : Memory.numberSize * splitting.cardinality ≤ Memory.largestObject := by decide
  obtain ⟨reports, mixes⟩ := inside_reports_first_missing_and_mixes
  obtain ⟨_, returns⟩ :=
    reports ℚ splitting 0 ⟨0, 1⟩ ⟨[some 0, some 1]⟩ _ (by decide) (by decide) fits
  obtain ⟨_, longer⟩ :=
    reports ℚ splitting 0 ⟨0, 2⟩ ⟨[some 0, some 1]⟩ _ (by decide) (by decide) fits
  obtain ⟨vector, returned⟩ := ((returns room).1 rfl).2 fun outside => absurd outside.2 (by decide)
  obtain ⟨single, _⟩ :=
    mixes splitting 0 ⟨0, 1⟩ ⟨[some 0, some 1]⟩ _ vector (by decide) (by decide) fits returned
  refine ⟨⟨⟨by decide, by decide⟩, fits⟩, ⟨vector, returned, single rfl⟩, ?_⟩
  exact (((longer room).2 (by decide)).1 0 ⟨0, 1⟩).mpr (by decide +kernel)

/-- A cell with 2^60 values and no transitions. -/
def vast : Cell ℚ where
  domain := ⟨1152921504606846976, by decide⟩
  transitions := []
  weights := []
  weights_valid := rfl
  length_weights := rfl
  parents_eq := by decide

/-- A cell that has nothing to read and nothing to emit can still fail: the vector of this one does
not fit into memory. -/
theorem vast_inside_aborts :
    vast.FitsChart 0 (.blank [1] 1) ∧ ¬vast.Emits ∧
    vast.inside 0 ⟨0, 1⟩ ⟨[some 0]⟩ (.blank [1] 1) = .error (.abort .allocation) := by
  refine ⟨?_, ?_, inside_of_no_room (by decide)⟩
  · exact fun transition member => absurd member List.not_mem_nil
  · rintro ⟨choice, member, _⟩
    exact absurd member List.not_mem_nil

end Cell

end RecursiveBayes
