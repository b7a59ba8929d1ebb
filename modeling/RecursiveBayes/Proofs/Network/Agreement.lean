/-
This file ties a chart to the recursion on observations. A chart has the shape for
a sequence when it was made for it and for the cells of the network. A cell returns
its inside vector from any such chart, if the entries that it reads are inside
vectors; whatever stands at other places does not matter.

A chart agrees with a network on a sequence when it has the shape and every vector
that was written into it is the inside vector of its variable for the phrase in its
span. Nothing is asked of the entries that were not written. On such a chart a cell
has no way to be wrong: it returns the inside vector, or it fails because a part
that it needs was not written. Writing what a cell returned keeps the chart in
agreement, whatever the order of the writes.
-/

import RecursiveBayes.Network.Inside
import RecursiveBayes.Proofs.Cell.Reading
import RecursiveBayes.Proofs.Chart.Entries

namespace RecursiveBayes

variable {α : Type}

/-- A vector was written for the variable at the span. -/
def InsideChart.Holds (chart : InsideChart α) (index : Nat) (span : Span) : Prop :=
  (chart.get? index span).isSome

theorem InsideChart.holds_iff {chart : InsideChart α} {index : Nat} {span : Span} :
    chart.Holds index span ↔ ∃ vector, chart.get? index span = some vector :=
  Option.isSome_iff_exists

theorem InsideChart.holds_blank [Scalar α] (cardinalities : List Nat) (length : Nat) :
    (InsideChart.blank cardinalities length : InsideChart α).Holds = fun _ _ => False := by
  funext index span
  rw [Holds, get?_blank]
  exact eq_false Bool.false_ne_true

variable [Scalar α]

namespace Network

/-! ### Room -/

/-- The chart for sequences of the given length fits into memory. -/
def FitsMemory (network : Network α) (length : Nat) : Prop :=
  ∀ cell ∈ network.cells,
    Memory.numberSize * ((length + 1) * (length + 1) * cell.cardinality) ≤ Memory.largestObject

/-- Every variable has a value, so a table has no fewer numbers than slots. -/
theorem slots_le_numbers (cell : Cell α) (length : Nat) :
    (length + 1) * (length + 1) ≤ (length + 1) * (length + 1) * cell.cardinality :=
  Nat.le_mul_of_pos_right _ cell.domain.cardinality_pos

/-- If the numbers of a chart fit into memory, so do its flags. -/
theorem fitsMemory_iff (network : Network α) {length : Nat} :
    network.FitsMemory length ↔
      (InsideChart.allocate network.cardinalities length : Checked (InsideChart α)) =
        .ok (.blank network.cardinalities length) := by
  rw [InsideChart.allocate_eq_ok_iff, cardinalities, List.forall_mem_map]
  refine forall₂_congr fun cell _ => ?_
  rw [VariableTable.reserve_eq_ok_iff]
  refine ⟨fun numbers => ⟨numbers, ?_⟩, fun both => both.1⟩
  have slots := slots_le_numbers cell length
  rw [Memory.numberSize] at numbers
  omega

variable {network : Network α}

theorem FitsMemory.slots {length index : Nat} (fits : network.FitsMemory length) {cell : Cell α}
    (found : network.cells[index]? = some cell) :
    Memory.numberSize * ((length + 1) * (length + 1)) ≤ Memory.largestObject :=
  Nat.le_trans (Nat.mul_le_mul_left _ (slots_le_numbers cell length))
    (fits cell (List.mem_of_getElem? found))

/-- The positions of a sequence whose chart fits into memory are words. -/
theorem FitsMemory.word {length index : Nat} (fits : network.FitsMemory length) {cell : Cell α}
    (found : network.cells[index]? = some cell) : length + 1 < Word.limit := by
  have slots := fits.slots found
  have side : length + 1 ≤ (length + 1) * (length + 1) :=
    Nat.le_mul_of_pos_right _ (Nat.succ_pos _)
  rw [Memory.numberSize, Memory.largestObject] at slots
  rw [Word.limit]
  omega

/-- One vector of a cell fits into memory if the chart does. -/
theorem FitsMemory.vector {length index : Nat} (fits : network.FitsMemory length) {cell : Cell α}
    (found : network.cells[index]? = some cell) :
    Memory.numberSize * cell.cardinality ≤ Memory.largestObject :=
  Nat.le_trans (Nat.mul_le_mul_left _ (Nat.le_mul_of_pos_left _ (Nat.mul_pos (Nat.succ_pos _)
    (Nat.succ_pos _)))) (fits cell (List.mem_of_getElem? found))

/-! ### Shape -/

/-- A chart with the tables that the network needs for a sequence, whatever was written into
them. -/
structure Shaped (network : Network α) (terminals : TerminalChart) (chart : InsideChart α) :
    Prop where
  sequenceLength : chart.sequenceLength = terminals.length
  cardinalities : chart.cardinalities = network.cardinalities

variable {terminals : TerminalChart} {chart : InsideChart α}

theorem Shaped.write (shaped : network.Shaped terminals chart) (index : Nat)
    (slot : VariableTable.Slot chart.sequenceLength) (vector : ValueVector α) :
    network.Shaped terminals (chart.write index slot vector) where
  sequenceLength := shaped.sequenceLength
  cardinalities := (chart.cardinalities_write index slot vector).trans shaped.cardinalities

theorem Shaped.cardinality? (shaped : network.Shaped terminals chart) {index : Nat}
    {cell : Cell α} (found : network.cells[index]? = some cell) :
    chart.cardinality? index = some cell.cardinality := by
  rw [InsideChart.cardinality?_eq, shaped.cardinalities, Network.cardinalities,
    List.getElem?_map, found, Option.map_some]

/-- Only entries for a cell and a span of the sequence are ever written. -/
theorem Shaped.of_holds (shaped : network.Shaped terminals chart) {index : Nat} {span : Span}
    (holds : chart.Holds index span) :
    index < network.cellCount ∧ span.Within terminals.length := by
  obtain ⟨vector, found⟩ := InsideChart.holds_iff.mp holds
  refine ⟨?_, shaped.sequenceLength ▸ InsideChart.within_of_get? found⟩
  have known := InsideChart.cardinality?_of_get? found
  rw [InsideChart.cardinality?_eq, shaped.cardinalities] at known
  obtain ⟨indexLt, _⟩ := List.getElem?_eq_some_iff.mp known
  rwa [Network.cardinalities, List.length_map] at indexLt

/-- Every vector that a cell reads from a chart of the right shape fits the axis it is read for,
also if it is no inside vector. -/
theorem Shaped.readsFitting (shaped : network.Shaped terminals chart) {index : Nat}
    {cell : Cell α} (found : network.cells[index]? = some cell) :
    cell.ReadsFitting index chart := by
  have fitting {child axis : Nat} (exists_child : ∃ other, network.cells[child]? = some other ∧
      other.cardinality = axis) (span : Span) (vector : ValueVector α)
      (read : chart.get? child span = some vector) : vector.length = axis := by
    obtain ⟨other, foundOther, rfl⟩ := exists_child
    have known := InsideChart.cardinality?_of_get? read
    rw [shaped.cardinality? foundOther] at known
    exact (Option.some.inj known).symm
  intro transition member
  obtain ⟨left, right⟩ := network.exists_children found member
  exact ⟨fitting left, fitting right⟩

/-! ### Agreement -/

/-- The entries of a chart at some places were written, and are inside vectors of the network. -/
def CorrectAt (network : Network α) (terminals : TerminalChart) (chart : InsideChart α)
    (places : Nat → Span → Prop) : Prop :=
  ∀ index span, places index span →
    chart.get? index span = some (network.insideVector index (terminals.phrase span))

/-- A chart for a sequence, all of whose entries are inside vectors of the network. -/
structure Agrees (network : Network α) (terminals : TerminalChart) (chart : InsideChart α) :
    Prop where
  sequenceLength : chart.sequenceLength = terminals.length
  cardinalities : chart.cardinalities = network.cardinalities
  entries : ∀ index span vector, chart.get? index span = some vector →
    vector = network.insideVector index (terminals.phrase span)

theorem agrees_blank (network : Network α) (terminals : TerminalChart) :
    network.Agrees terminals (.blank network.cardinalities terminals.length) where
  sequenceLength := rfl
  cardinalities := InsideChart.cardinalities_blank _ _
  entries index span vector found := by
    rw [InsideChart.get?_blank] at found
    cases found

theorem Agrees.shaped (agrees : network.Agrees terminals chart) :
    network.Shaped terminals chart where
  sequenceLength := agrees.sequenceLength
  cardinalities := agrees.cardinalities

theorem Agrees.get?_of_holds (agrees : network.Agrees terminals chart) {index : Nat} {span : Span}
    (holds : chart.Holds index span) :
    chart.get? index span = some (network.insideVector index (terminals.phrase span)) := by
  obtain ⟨vector, found⟩ := InsideChart.holds_iff.mp holds
  rw [found, agrees.entries index span vector found]

/-- What was written into a chart that agrees is correct. -/
theorem Agrees.correctAt (agrees : network.Agrees terminals chart) :
    network.CorrectAt terminals chart chart.Holds :=
  fun _ _ holds => agrees.get?_of_holds holds

/-- Writing an inside vector keeps the agreement. -/
theorem Agrees.write (agrees : network.Agrees terminals chart) {index : Nat}
    {slot : VariableTable.Slot chart.sequenceLength} {span : Span} {vector : ValueVector α}
    (accepted : chart.slotFor index span vector = .ok slot)
    (same : vector = network.insideVector index (terminals.phrase span)) :
    network.Agrees terminals (chart.write index slot vector) where
  sequenceLength := agrees.sequenceLength
  cardinalities := (chart.cardinalities_write index slot vector).trans agrees.cardinalities
  entries other otherSpan written found := by
    rw [InsideChart.get?_write accepted] at found
    split at found
    · rename_i here
      obtain ⟨rfl, rfl⟩ := here
      rw [← Option.some.inj found, same]
    · exact agrees.entries other otherSpan written found

/-! ### What a cell returns -/

/-- Every vector that a cell reads for a span is there: the two parts of the span at each split
point, for each binary transition that may be chosen. -/
def Supplied (cell : Cell α) (index : Nat) (span : Span) (written : Nat → Span → Prop) : Prop :=
  ∀ transition action, (Transition.binary transition, action) ∈ cell.choices →
    Scalar.isZero action = false → ∀ point, span.start < point → point < span.stop →
      written (transition.leftIndex index) ⟨span.start, point⟩ ∧
        written (transition.rightIndex index) ⟨point, span.stop⟩

/-- Within the sequence, nothing but a part that was not written is an obstacle. -/
theorem findSome?_obstacle?_eq_none_iff {cell : Cell α} {index : Nat} {span : Span}
    (within : span.Within terminals.length) :
    cell.choices.findSome? (Cell.obstacle? index span terminals chart) = none ↔
      Supplied cell index span chart.Holds := by
  rw [List.findSome?_eq_none_iff]
  constructor
  · intro clear transition action member chosen point after before
    have here := clear _ member
    rw [Cell.obstacle?, if_neg (Bool.eq_false_iff.mp chosen)] at here
    have parts := List.findSome?_eq_none_iff.mp here (span.splitAt point)
      (List.mem_map_of_mem (Span.mem_splitPoints.mpr ⟨after, before⟩))
    obtain ⟨left, right⟩ := Option.or_eq_none_iff.mp parts
    exact ⟨InsideChart.missing?_eq_none_iff.mp left, InsideChart.missing?_eq_none_iff.mp right⟩
  · rintro supplied ⟨transition, action⟩ member
    rw [Cell.obstacle?]
    split
    · rfl
    · rename_i chosen
      cases transition with
      | terminal transition =>
        have inside : span.start < terminals.length := Nat.lt_of_lt_of_le within.1 within.2
        simp only [TerminalChart.missing?_eq_none_iff.mpr inside, ite_self]
      | binary transition =>
        refine List.findSome?_eq_none_iff.mpr fun parts partsMember => ?_
        obtain ⟨point, pointMember, rfl⟩ := List.mem_map.mp partsMember
        obtain ⟨after, before⟩ := Span.mem_splitPoints.mp pointMember
        obtain ⟨left, right⟩ := supplied transition action member
          (Bool.eq_false_iff.mpr chosen) point after before
        exact Option.or_eq_none_iff.mpr ⟨InsideChart.missing?_eq_none_iff.mpr left,
          InsideChart.missing?_eq_none_iff.mpr right⟩

/-- What a cell computes from a chart of the right shape: it fails at the first obstacle, and
otherwise explains the span by the vectors in the chart. -/
theorem Shaped.inside_eq (shaped : network.Shaped terminals chart)
    (fits : network.FitsMemory terminals.length) {index : Nat} {cell : Cell α}
    (found : network.cells[index]? = some cell) {span : Span}
    (within : span.Within terminals.length) :
    cell.inside index span terminals chart =
      succeedUnless (cell.choices.findSome? (Cell.obstacle? index span terminals chart))
        (cell.explain index (span.analysis terminals) chart.vectorAt) := by
  have word : span.stop < Word.limit :=
    Nat.lt_of_le_of_lt within.2 (Nat.lt_of_succ_lt (fits.word found))
  exact Cell.inside_eq (shaped.readsFitting found) (Nat.le_of_lt within.1) word (fits.vector found)

/-- A cell returns its inside vector, if everything that it reads is correct. It does not matter
what the chart holds at other places. -/
theorem Shaped.inside_of_supplied (shaped : network.Shaped terminals chart)
    (fits : network.FitsMemory terminals.length) {places : Nat → Span → Prop}
    (correct : network.CorrectAt terminals chart places) {index : Nat} {cell : Cell α}
    (found : network.cells[index]? = some cell) {span : Span}
    (within : span.Within terminals.length) (supplied : Supplied cell index span places) :
    cell.inside index span terminals chart =
      .ok (network.insideVector index (terminals.phrase span)) := by
  have there : Supplied cell index span chart.Holds := by
    intro transition action member chosen point after before
    obtain ⟨left, right⟩ := supplied transition action member chosen point after before
    exact ⟨InsideChart.holds_iff.mpr ⟨_, correct _ _ left⟩,
      InsideChart.holds_iff.mpr ⟨_, correct _ _ right⟩⟩
  rw [shaped.inside_eq fits found within, succeedUnless_eq_ok_iff,
    findSome?_obstacle?_eq_none_iff within]
  refine ⟨there, ?_⟩
  rw [network.insideVector_phrase found within, cell.explain_congr index]
  intro transition action member chosen pair pairMember
  obtain ⟨point, pointMember, rfl⟩ := List.mem_map.mp pairMember
  obtain ⟨after, before⟩ := Span.mem_splitPoints.mp pointMember
  obtain ⟨left, right⟩ := supplied transition action member chosen point after before
  rw [InsideChart.vectorAt, InsideChart.vectorAt, Span.splitAt, correct _ _ left,
    correct _ _ right]
  exact ⟨rfl, rfl⟩

/-- On a chart that agrees, a cell returns its inside vector exactly if everything that it reads
was written. -/
theorem Agrees.inside_eq_ok_iff (agrees : network.Agrees terminals chart)
    (fits : network.FitsMemory terminals.length) {index : Nat} {cell : Cell α}
    (found : network.cells[index]? = some cell) {span : Span}
    (within : span.Within terminals.length) {vector : ValueVector α} :
    cell.inside index span terminals chart = .ok vector ↔
      Supplied cell index span chart.Holds ∧
        network.insideVector index (terminals.phrase span) = vector := by
  have returned (supplied : Supplied cell index span chart.Holds) :=
    agrees.shaped.inside_of_supplied fits agrees.correctAt found within supplied
  constructor
  · intro succeeds
    have supplied : Supplied cell index span chart.Holds := by
      rw [agrees.shaped.inside_eq fits found within, succeedUnless_eq_ok_iff,
        findSome?_obstacle?_eq_none_iff within] at succeeds
      exact succeeds.1
    exact ⟨supplied, Except.ok.inj ((returned supplied).symm.trans succeeds)⟩
  · rintro ⟨supplied, rfl⟩
    exact returned supplied

end Network

end RecursiveBayes
