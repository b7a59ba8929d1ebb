/-
This file describes a chart by the requests to write that were made to it. Whatever
the requests are, a chart is a partial map from variables and spans to vectors: at
each variable and span it has the vector of the last request for them that was
accepted, and nothing if there was none. A request is accepted exactly if its
variable exists, its span lies within the sequence and its vector has an entry for
each value; a request that is refused leaves the chart as it was.

The chart keeps this map in flat arrays: the vectors of a variable lie one behind the
other, and a flag for each slot says whether there is one. What carries the proof is
that flags and numbers stay in step. A slot without its flag holds zeros, a slot with
it the vector that was written last, and as no place belongs to two slots, a write
never reaches a slot but its own. The flags, the numbers at every place and the count
then follow from the map, so no reading of a chart shows more than the map.
-/

import RecursiveBayes.Network.Inside
import RecursiveBayes.Proofs.Chart.Counting
import RecursiveBayes.Scalar.Rational

namespace RecursiveBayes

variable {α : Type}

/-! ### Requests -/

/-- A request to write a vector for a variable at a span. -/
structure WriteRequest (α : Type) where
  variableIndex : Nat
  span : Span
  vector : ValueVector α

namespace WriteRequest

variable (cardinalities : List Nat) (sequenceLength : Nat) (request : WriteRequest α)

/-- A request is accepted if there is the variable, the span lies within the sequence and the vector
has one entry for each value of the variable. -/
def Accepted : Prop :=
  cardinalities[request.variableIndex]? = some request.vector.length ∧
    request.span.Within sequenceLength

instance : Decidable (request.Accepted cardinalities sequenceLength) :=
  inferInstanceAs (Decidable (_ ∧ _))

/-- The fault of a request that is refused. A missing variable is reported first, then a span that
is not within the sequence, then a vector of the wrong length. -/
def fault? : Option (Fault α) :=
  match cardinalities[request.variableIndex]? with
  | none => some (.malformed (.noSuchVariable request.variableIndex cardinalities.length))
  | some cardinality =>
    if request.span.Within sequenceLength then
      if request.vector.length = cardinality then
        none
      else
        some (.malformed (.vectorLength request.vector.length cardinality))
    else
      some (.invalidLocation request.span sequenceLength)

variable {cardinalities sequenceLength request}

theorem fault?_eq_none_iff :
    request.fault? cardinalities sequenceLength = none ↔
      request.Accepted cardinalities sequenceLength := by
  rw [fault?, Accepted]
  cases cardinalities[request.variableIndex]? with
  | none => simp
  | some cardinality =>
    rw [Option.some.injEq, eq_comm (a := cardinality)]
    by_cases within : request.span.Within sequenceLength <;>
      by_cases fits : request.vector.length = cardinality <;> simp [within, fits]

/-- The variable and the span of a request. -/
def place (request : WriteRequest α) : Nat × Span :=
  (request.variableIndex, request.span)

end WriteRequest

/-- The vector of the last accepted request for a variable at a span, if there was one. -/
def lastWritten? (cardinalities : List Nat) (sequenceLength : Nat)
    (requests : List (WriteRequest α)) (index : Nat) (span : Span) : Option (ValueVector α) :=
  (requests.reverse.find? fun request =>
    request.Accepted cardinalities sequenceLength ∧ request.place = (index, span)).map
      WriteRequest.vector

/-- The variables and spans of all accepted requests, each of them once. -/
def placesWritten (cardinalities : List Nat) (sequenceLength : Nat)
    (requests : List (WriteRequest α)) : Finset (Nat × Span) :=
  ((requests.filter fun request =>
    request.Accepted cardinalities sequenceLength).map WriteRequest.place).toFinset

section Requests

variable {cardinalities : List Nat} {sequenceLength : Nat} {requests : List (WriteRequest α)}

theorem lastWritten?_append (request : WriteRequest α) (index : Nat) (span : Span) :
    lastWritten? cardinalities sequenceLength (requests ++ [request]) index span =
      if request.Accepted cardinalities sequenceLength ∧ request.place = (index, span) then
        some request.vector
      else
        lastWritten? cardinalities sequenceLength requests index span := by
  rw [lastWritten?, List.reverse_append, List.reverse_singleton, List.singleton_append,
    List.find?_cons]
  split <;> rename_i last <;> simp only [decide_eq_true_eq, decide_eq_false_iff_not] at last
  · rw [if_pos last, Option.map_some]
  · rw [if_neg last, lastWritten?]

theorem mem_placesWritten_iff {index : Nat} {span : Span} :
    (index, span) ∈ placesWritten cardinalities sequenceLength requests ↔
      (lastWritten? cardinalities sequenceLength requests index span).isSome := by
  simp [placesWritten, lastWritten?, and_assoc]

end Requests

/-! ### Tables in step -/

namespace VariableTable

section Flags

variable {sequenceLength : Nat} (table : VariableTable α sequenceLength)

theorem isSome_vectorAt? (slot : Slot sequenceLength) :
    (table.vectorAt? slot).isSome = table.isWritten slot := by
  rw [vectorAt?]
  cases table.isWritten slot <;> rfl

theorem get?_of_slot {span : Span} {slot : Slot sequenceLength}
    (found : slot? sequenceLength span = some slot) : table.get? span = table.vectorAt? slot := by
  rw [get?, found]
  rfl

theorem isPopulated_eq (span : Span) : table.isPopulated span = (table.get? span).isSome := by
  rw [isPopulated, get?]
  cases slot? sequenceLength span with
  | none => rfl
  | some slot => exact (table.isSome_vectorAt? slot).symm

end Flags

variable [Scalar α] {sequenceLength : Nat} {table : VariableTable α sequenceLength}

/-- The flags of a table are in step with its numbers: where no vector was written, there are
zeros. -/
def InStep (table : VariableTable α sequenceLength) : Prop :=
  ∀ slot, table.isWritten slot = false → table.slice slot = ValueVector.zeros table.cardinality

theorem inStep_blank (cardinality : Nat) :
    (blank cardinality sequenceLength : VariableTable α sequenceLength).InStep :=
  fun slot _ => slice_blank cardinality slot

theorem InStep.write (inStep : table.InStep) (slot : Slot sequenceLength) {vector : ValueVector α}
    (fits : vector.length = table.cardinality) : (table.write slot vector).InStep := by
  intro other unwritten
  rw [isWritten_write] at unwritten
  rw [slice_write table slot fits]
  by_cases same : other = slot
  · rw [if_pos same] at unwritten
    cases unwritten
  · rw [if_neg same] at unwritten ⊢
    exact inStep other unwritten

/-- A table in step shows in each slot the vector that was written there, and zeros if none was. -/
theorem InStep.slice_eq (inStep : table.InStep) (slot : Slot sequenceLength) :
    table.slice slot = (table.vectorAt? slot).getD (ValueVector.zeros table.cardinality) := by
  rw [vectorAt?]
  cases written : table.isWritten slot with
  | false => exact inStep slot written
  | true => rfl

/-- A table in step reads zeros at a span within the sequence where nothing was written. -/
theorem InStep.read_eq (inStep : table.InStep) (span : Span) :
    table.read span =
      if span.Within sequenceLength then
        .ok ((table.get? span).getD (ValueVector.zeros table.cardinality))
      else
        .error (.outsideSequence span.start span.stop sequenceLength) := by
  rw [read, get?]
  by_cases within : span.Within sequenceLength
  · rw [slot?_eq_some within, if_pos within]
    exact congrArg Except.ok (inStep.slice_eq _)
  · rw [slot?_eq_none within, if_neg within]

end VariableTable

/-! ### Charts -/

namespace InsideChart

/-- The flags of all tables are in step with their numbers. -/
def InStep [Scalar α] (chart : InsideChart α) : Prop :=
  ∀ table ∈ chart.tables, table.InStep

theorem inStep_blank [Scalar α] (cardinalities : List Nat) (sequenceLength : Nat) :
    (blank cardinalities sequenceLength : InsideChart α).InStep :=
  List.forall_mem_map.mpr fun cardinality _ => VariableTable.inStep_blank cardinality

/-- An accepted write keeps flags and numbers in step. -/
theorem InStep.write [Scalar α] {chart : InsideChart α} (inStep : chart.InStep) {index : Nat}
    {slot : VariableTable.Slot chart.sequenceLength} {span : Span} {vector : ValueVector α}
    (accepted : chart.slotFor index span vector = .ok slot) :
    (chart.write index slot vector).InStep := by
  have tables : ∀ table ∈ chart.tables.modify index fun before => before.write slot vector,
      table.InStep := by
    intro table member
    obtain ⟨other, found⟩ := List.getElem?_of_mem member
    rw [List.getElem?_modify, Option.map_eq_map, Option.map_eq_some_iff] at found
    obtain ⟨before, foundBefore, rfl⟩ := found
    have kept := inStep before (List.mem_of_getElem? foundBefore)
    split
    · rename_i same
      rw [slotFor, same, foundBefore] at accepted
      exact kept.write slot (VariableTable.slotFor_eq_ok accepted).2
    · exact kept
  exact tables

/-- The chart after a request. A request that is refused leaves the chart as it was. -/
def after (chart : InsideChart α) (request : WriteRequest α) : InsideChart α :=
  match chart.set request.variableIndex request.span request.vector with
  | .ok written => written
  | .error _ => chart

/-- A chart for the given variables and length that holds exactly the given vectors. -/
structure Represents [Scalar α] (chart : InsideChart α) (cardinalities : List Nat)
    (sequenceLength : Nat) (contents : Nat → Span → Option (ValueVector α)) : Prop where
  sequenceLength_eq : chart.sequenceLength = sequenceLength
  cardinalities_eq : chart.cardinalities = cardinalities
  get?_eq : ∀ index span, chart.get? index span = contents index span
  counted : chart.Counted
  inStep : chart.InStep

section Represents

variable {chart : InsideChart α} {cardinalities : List Nat} {sequenceLength : Nat}
  {contents : Nat → Span → Option (ValueVector α)}

/-- A request without a fault has a slot, and any other request is refused with its fault. -/
theorem slotFor_of_fault? (chart : InsideChart α) (request : WriteRequest α) :
    match request.fault? chart.cardinalities chart.sequenceLength with
    | none => ∃ slot, chart.slotFor request.variableIndex request.span request.vector = .ok slot
    | some fault =>
      chart.slotFor request.variableIndex request.span request.vector = .error fault := by
  rw [slotFor, WriteRequest.fault?, cardinalities, List.getElem?_map, List.length_map]
  cases chart.tables[request.variableIndex]? with
  | none => rfl
  | some table =>
    simp only [Option.map_some, VariableTable.slotFor]
    by_cases within : request.span.Within chart.sequenceLength
    · rw [VariableTable.slot?_eq_some within, if_pos within]
      by_cases fits : request.vector.length = table.cardinality
      · simp only [if_pos fits]
        exact ⟨_, rfl⟩
      · simp only [if_neg fits]
        rfl
    · rw [VariableTable.slot?_eq_none within, if_neg within]

/-- A request returns the chart with its vector, or its fault. -/
theorem set_eq (chart : InsideChart α) (request : WriteRequest α) :
    chart.set request.variableIndex request.span request.vector =
      match request.fault? chart.cardinalities chart.sequenceLength with
      | none => .ok (chart.after request)
      | some fault => .error fault := by
  have found := slotFor_of_fault? chart request
  rw [after, set]
  cases faulty : request.fault? chart.cardinalities chart.sequenceLength with
  | none =>
    rw [faulty] at found
    obtain ⟨slot, hasSlot⟩ := found
    rw [hasSlot]
    rfl
  | some fault =>
    rw [faulty] at found
    rw [found]
    rfl

theorem after_of_refused {request : WriteRequest α}
    (refused : ¬ request.Accepted chart.cardinalities chart.sequenceLength) :
    chart.after request = chart := by
  rw [← WriteRequest.fault?_eq_none_iff] at refused
  obtain ⟨fault, faulty⟩ := Option.ne_none_iff_exists'.mp refused
  rw [after, set_eq, faulty]

/-- An accepted request writes its vector. -/
theorem after_of_accepted {request : WriteRequest α}
    (accepted : request.Accepted chart.cardinalities chart.sequenceLength) :
    ∃ slot, chart.slotFor request.variableIndex request.span request.vector = .ok slot ∧
      chart.after request = chart.write request.variableIndex slot request.vector := by
  have found := slotFor_of_fault? chart request
  rw [WriteRequest.fault?_eq_none_iff.mpr accepted] at found
  obtain ⟨slot, hasSlot⟩ := found
  refine ⟨slot, hasSlot, ?_⟩
  rw [after, set, hasSlot]
  rfl

variable [Scalar α]

/-- A blank chart represents the map without any vector. -/
theorem represents_blank (cardinalities : List Nat) (sequenceLength : Nat) :
    (blank cardinalities sequenceLength : InsideChart α).Represents cardinalities sequenceLength
      fun _ _ => none where
  sequenceLength_eq := rfl
  cardinalities_eq := cardinalities_blank cardinalities sequenceLength
  get?_eq := get?_blank cardinalities sequenceLength
  counted := counted_blank cardinalities sequenceLength
  inStep := inStep_blank cardinalities sequenceLength

/-- What one request does to the map that a chart represents: an accepted request overwrites the
vector at its place, and nothing else changes. -/
theorem Represents.after (represents : chart.Represents cardinalities sequenceLength contents)
    (request : WriteRequest α) :
    (chart.after request).Represents cardinalities sequenceLength fun index span =>
      if request.Accepted cardinalities sequenceLength ∧ request.place = (index, span) then
        some request.vector
      else
        contents index span := by
  obtain ⟨rfl, rfl, found, counted, inStep⟩ := represents
  by_cases accepted : request.Accepted chart.cardinalities chart.sequenceLength
  · obtain ⟨slot, hasSlot, written⟩ := after_of_accepted accepted
    rw [written]
    refine ⟨rfl, cardinalities_write chart _ slot _, fun index span => ?_,
      counted.write hasSlot, inStep.write hasSlot⟩
    rw [get?_write hasSlot, found]
    simp only [accepted, true_and, WriteRequest.place, Prod.mk.injEq,
      eq_comm (a := request.variableIndex), eq_comm (a := request.span)]
  · rw [after_of_refused accepted]
    exact ⟨rfl, rfl, fun index span => by simp [accepted, found], counted, inStep⟩

/-- What any number of requests leave behind, by induction on their number. -/
theorem represents_lastWritten (cardinalities : List Nat) (sequenceLength : Nat)
    (requests : List (WriteRequest α)) :
    (requests.foldl InsideChart.after (blank cardinalities sequenceLength)).Represents
      cardinalities sequenceLength (lastWritten? cardinalities sequenceLength requests) := by
  induction requests using List.reverseRecOn with
  | nil => exact represents_blank cardinalities sequenceLength
  | append_singleton earlier request inductionHypothesis =>
    rw [List.foldl_append, List.foldl_cons, List.foldl_nil]
    have next := inductionHypothesis.after request
    simp only [← lastWritten?_append] at next
    exact next

/-! ### Reading -/

namespace Represents

variable (represents : chart.Represents cardinalities sequenceLength contents)
include represents

theorem require_eq (index : Nat) (span : Span) :
    chart.require index span =
      match contents index span with
      | some vector => .ok vector
      | none => .error (.unscheduled index span) := by
  rw [← represents.get?_eq]
  exact rfl

theorem get?_eq_none {index : Nat} {span : Span}
    (outside : cardinalities.length ≤ index ∨ ¬ span.Within sequenceLength) :
    chart.get? index span = none := by
  obtain ⟨rfl, rfl, _, _, _⟩ := represents
  refine Option.eq_none_iff_forall_not_mem.mpr fun vector found => ?_
  rcases outside with missing | apart
  · have known := cardinality?_of_get? found
    rw [cardinality?_eq, List.getElem?_eq_none missing] at known
    cases known
  · exact apart (within_of_get? found)

theorem isPopulated?_eq (index : Nat) (span : Span) :
    chart.isPopulated? index span =
      (cardinalities[index]?).map fun _ => (contents index span).isSome := by
  obtain ⟨rfl, rfl, found, _, _⟩ := represents
  rw [isPopulated?, InsideChart.cardinalities, List.getElem?_map, ← found, get?]
  cases chart.tables[index]? with
  | none => rfl
  | some table => exact congrArg some (table.isPopulated_eq span)

theorem read_eq (index : Nat) (span : Span) :
    chart.read index span =
      match cardinalities[index]? with
      | none => .error .indexOutOfRange
      | some cardinality =>
        if span.Within sequenceLength then
          .ok ((contents index span).getD (ValueVector.zeros cardinality))
        else
          .error (.outsideSequence span.start span.stop sequenceLength) := by
  obtain ⟨rfl, rfl, found, _, inStep⟩ := represents
  rw [read, InsideChart.cardinalities, List.getElem?_map, ← found, get?]
  cases foundTable : chart.tables[index]? with
  | none => rfl
  | some table => exact (inStep table (List.mem_of_getElem? foundTable)).read_eq span

/-- Where the vector for a variable at a span within the sequence lies in the arrays of the table of
the variable, and what the arrays hold there: a flag that says whether there is a vector, and a
stretch with the vector, or with zeros. -/
theorem layout {index : Nat} {table : VariableTable α chart.sequenceLength}
    (foundTable : chart.tables[index]? = some table) {span : Span}
    (within : span.Within chart.sequenceLength) :
    ∃ slot, VariableTable.slot? chart.sequenceLength span = some slot ∧
      slot.val = span.start * (sequenceLength + 1) + span.stop ∧
      (table.range slot).2 ≤ table.values.size ∧
      table.populated[slot.val]? = some (contents index span).isSome ∧
      (table.values.extract (table.range slot).1 (table.range slot).2).toList =
        (contents index span).getD (ValueVector.zeros table.cardinality) := by
  obtain ⟨rfl, rfl, found, _, inStep⟩ := represents
  have hasSlot := VariableTable.slot?_eq_some within
  have read : contents index span = table.vectorAt? ⟨_, VariableTable.slot_lt within⟩ := by
    rw [← found, get?, foundTable]
    exact table.get?_of_slot hasSlot
  refine ⟨_, hasSlot, rfl, (table.range_le_size _).2, ?_, ?_⟩
  · rw [read, VariableTable.isSome_vectorAt?]
    exact Array.getElem?_eq_getElem (table.slot_lt_size _)
  · rw [read, ← table.slice_eq_extract]
    exact (inStep table (List.mem_of_getElem? foundTable)).slice_eq _

end Represents

end Represents

/-- A chart that has room is a partial map from variables and spans to vectors, after any requests
to write. A further request returns its fault if it has one, and the chart stays as it was; it has
none exactly if its variable exists, its span lies within the sequence and its vector fits the
variable. At every variable and span the chart has the vector of the last accepted request, however
it is read, and it counts as many vectors as there are variables and spans with one.

In the arrays of a variable, every span within the sequence has a flag and a stretch of places, both
within the arrays; they hold what the map has there, and no place belongs to two spans. -/
theorem writes_refine_partial_map [Scalar α] (cardinalities : List Nat) (sequenceLength : Nat)
    (fits : ∀ cardinality ∈ cardinalities,
      Memory.numberSize * ((sequenceLength + 1) * (sequenceLength + 1) * cardinality) ≤
          Memory.largestObject ∧
        (sequenceLength + 1) * (sequenceLength + 1) ≤ Memory.largestObject)
    (requests : List (WriteRequest α)) :
    ∃ blank chart : InsideChart α,
      allocate cardinalities sequenceLength = .ok blank ∧
      requests.foldl InsideChart.after blank = chart ∧
      (∀ request : WriteRequest α,
        chart.set request.variableIndex request.span request.vector =
          (match request.fault? cardinalities sequenceLength with
            | none => .ok (chart.after request)
            | some fault => .error fault) ∧
        (request.fault? cardinalities sequenceLength = none ↔
          cardinalities[request.variableIndex]? = some request.vector.length ∧
            request.span.start < request.span.stop ∧ request.span.stop ≤ sequenceLength) ∧
        (request.fault? cardinalities sequenceLength ≠ none → chart.after request = chart)) ∧
      (∀ index span,
        chart.get? index span = lastWritten? cardinalities sequenceLength requests index span ∧
        (cardinalities.length ≤ index ∨ ¬ span.Within sequenceLength →
          chart.get? index span = none) ∧
        (∀ network : Network α, network.protocol.lookup chart index span =
          lastWritten? cardinalities sequenceLength requests index span) ∧
        chart.require index span =
          (match lastWritten? cardinalities sequenceLength requests index span with
            | some vector => .ok vector
            | none => .error (.unscheduled index span)) ∧
        chart.isPopulated? index span = (cardinalities[index]?).map (fun _ =>
          (lastWritten? cardinalities sequenceLength requests index span).isSome) ∧
        chart.read index span =
          (match cardinalities[index]? with
            | none => .error .indexOutOfRange
            | some cardinality =>
              if span.Within sequenceLength then
                .ok ((lastWritten? cardinalities sequenceLength requests index span).getD
                  (ValueVector.zeros cardinality))
              else
                .error (.outsideSequence span.start span.stop sequenceLength))) ∧
      chart.count = (placesWritten cardinalities sequenceLength requests).card ∧
      chart.sequenceLength = sequenceLength ∧
      ∀ index table, chart.tables[index]? = some table →
        (∀ span : Span, span.Within chart.sequenceLength →
          ∃ slot, VariableTable.slot? chart.sequenceLength span = some slot ∧
            slot.val = span.start * (sequenceLength + 1) + span.stop ∧
            (table.range slot).2 ≤ table.values.size ∧
            table.populated[slot.val]? =
              some (lastWritten? cardinalities sequenceLength requests index span).isSome ∧
            (table.values.extract (table.range slot).1 (table.range slot).2).toList =
              (lastWritten? cardinalities sequenceLength requests index span).getD
                (ValueVector.zeros table.cardinality)) ∧
        ∀ (left right : Span) (leftSlot rightSlot : VariableTable.Slot chart.sequenceLength),
          VariableTable.slot? chart.sequenceLength left = some leftSlot →
          VariableTable.slot? chart.sequenceLength right = some rightSlot → ∀ place,
            (table.range leftSlot).1 ≤ place ∧ place < (table.range leftSlot).2 →
            (table.range rightSlot).1 ≤ place ∧ place < (table.range rightSlot).2 →
              left = right := by
  have represents := represents_lastWritten cardinalities sequenceLength requests
  have room : ∀ cardinality ∈ cardinalities,
      VariableTable.reserve cardinality sequenceLength = .ok () :=
    fun cardinality member => VariableTable.reserve_eq_ok_iff.mpr (fits cardinality member)
  refine ⟨_, _, allocate_eq_ok_iff.mpr room, rfl, fun request => ?_, fun index span => ?_, ?_,
    represents.sequenceLength_eq, fun index table foundTable =>
      ⟨fun span within => represents.layout foundTable within,
        fun left right leftSlot rightSlot foundLeft foundRight place inLeft inRight => ?_⟩⟩
  · have accepted : request.fault? cardinalities sequenceLength = none ↔
        request.Accepted cardinalities sequenceLength := WriteRequest.fault?_eq_none_iff
    refine ⟨?_, accepted, fun faulty => ?_⟩
    · rw [set_eq, represents.sequenceLength_eq, represents.cardinalities_eq]
    · refine after_of_refused ?_
      rwa [represents.sequenceLength_eq, represents.cardinalities_eq, ← accepted]
  · have found := represents.get?_eq index span
    exact ⟨found, represents.get?_eq_none, fun network => found, represents.require_eq index span,
      represents.isPopulated?_eq index span, represents.read_eq index span⟩
  · refine represents.counted _ fun index span => ?_
    rw [mem_placesWritten_iff, represents.get?_eq]
  · rw [VariableTable.slot_eq_of_place inLeft inRight] at foundLeft
    exact VariableTable.slot?_injective foundLeft foundRight

/-- Five requests to a chart of two variables, the second of which has no values. One is written
over by a later one, one is for a reversed span and one is for a variable that is not there. -/
def mixedRequests : List (WriteRequest ℚ) :=
  [⟨0, ⟨0, 1⟩, [1, 2]⟩, ⟨0, ⟨2, 1⟩, [1, 1]⟩, ⟨0, ⟨0, 1⟩, [3, 4]⟩, ⟨1, ⟨0, 2⟩, []⟩, ⟨2, ⟨0, 1⟩, []⟩]

/-- Of the five requests, two vectors are in the chart in the end. -/
theorem mixedRequests_leave_two :
    (∀ cardinality ∈ [2, 0],
      Memory.numberSize * ((2 + 1) * (2 + 1) * cardinality) ≤ Memory.largestObject ∧
        (2 + 1) * (2 + 1) ≤ Memory.largestObject) ∧
    ∃ blank chart : InsideChart ℚ,
      allocate [2, 0] 2 = .ok blank ∧ mixedRequests.foldl InsideChart.after blank = chart ∧
      chart.get? 0 ⟨0, 1⟩ = some [3, 4] ∧ chart.get? 1 ⟨0, 2⟩ = some [] ∧
      chart.get? 0 ⟨2, 1⟩ = none ∧ chart.count = 2 := by
  have room : ∀ cardinality ∈ [2, 0],
      Memory.numberSize * ((2 + 1) * (2 + 1) * cardinality) ≤ Memory.largestObject ∧
        (2 + 1) * (2 + 1) ≤ Memory.largestObject := by decide
  obtain ⟨blank, chart, allocated, written, _, found, count, _⟩ :=
    writes_refine_partial_map [2, 0] 2 room mixedRequests
  refine ⟨room, blank, chart, allocated, written, ?_, ?_, ?_, ?_⟩
  · rw [(found 0 ⟨0, 1⟩).1]
    rfl
  · rw [(found 1 ⟨0, 2⟩).1]
    rfl
  · exact (found 0 ⟨2, 1⟩).2.1 (.inr (by decide))
  · rw [count]
    rfl

end InsideChart

end RecursiveBayes
