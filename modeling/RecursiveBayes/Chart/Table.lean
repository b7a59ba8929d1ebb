/-
This file holds the inside vectors of one variable over the spans of a sequence.
The table is dense: a sequence of length `n` has a square of `n + 1` by `n + 1`
slots, one for every pair of a start and a stop. The vectors of all slots lie one
behind the other in a single array of numbers, and for each slot a flag says whether
a vector was written there. So a vector of zeros that was computed is told apart
from one that was not.

Distinct spans within the sequence have distinct slots, and distinct slots have
distinct places in the array. What is written at one span is therefore never seen at
another.
-/

import RecursiveBayes.Failure.Fault
import RecursiveBayes.Weights.Tensor

namespace RecursiveBayes

/-- The inside vectors of one variable over the spans of a sequence of a fixed length. -/
structure VariableTable (α : Type) (sequenceLength : Nat) where
  /-- The number of values of the variable, and the length of its vectors. -/
  cardinality : Nat
  /-- The vectors of all slots, one behind the other. -/
  values : Array α
  /-- For each slot, whether a vector was written there. -/
  populated : Array Bool
  size_values : values.size = (sequenceLength + 1) * (sequenceLength + 1) * cardinality
  size_populated : populated.size = (sequenceLength + 1) * (sequenceLength + 1)
  deriving DecidableEq

namespace VariableTable

/-! ### Slots -/

/-- The number of a slot in the tables for sequences of the given length. -/
abbrev Slot (sequenceLength : Nat) : Type :=
  Fin ((sequenceLength + 1) * (sequenceLength + 1))

/-- The slots of all spans within the sequence lie within the square of starts and stops. -/
theorem slot_lt {sequenceLength : Nat} {span : Span} (within : span.Within sequenceLength) :
    span.start * (sequenceLength + 1) + span.stop <
      (sequenceLength + 1) * (sequenceLength + 1) := by
  obtain ⟨nonempty, fits⟩ := within
  have startLt : span.start + 1 ≤ sequenceLength + 1 := by omega
  have rows := Nat.mul_le_mul_right (sequenceLength + 1) startLt
  rw [Nat.succ_mul] at rows
  omega

/-- The slot of a span, if the span lies within the sequence. -/
def slot? (sequenceLength : Nat) (span : Span) : Option (Slot sequenceLength) :=
  if within : span.Within sequenceLength then
    some ⟨span.start * (sequenceLength + 1) + span.stop, slot_lt within⟩
  else
    none

theorem slot?_eq_some {sequenceLength : Nat} {span : Span} (within : span.Within sequenceLength) :
    slot? sequenceLength span =
      some ⟨span.start * (sequenceLength + 1) + span.stop, slot_lt within⟩ :=
  dif_pos within

theorem slot?_eq_none {sequenceLength : Nat} {span : Span} (outside : ¬span.Within sequenceLength) :
    slot? sequenceLength span = none :=
  dif_neg outside

/-- Two spans with one slot are one span. -/
theorem slot?_injective {sequenceLength : Nat} {slot : Slot sequenceLength} {left right : Span}
    (foundLeft : slot? sequenceLength left = some slot)
    (foundRight : slot? sequenceLength right = some slot) : left = right := by
  unfold slot? at foundLeft foundRight
  split at foundLeft
  · split at foundRight
    · rename_i withinLeft withinRight
      have same := Fin.val_eq_of_eq (Option.some.inj (foundLeft.trans foundRight.symm))
      obtain ⟨starts, stops⟩ := (Tensor.place_eq_iff (Nat.lt_succ_of_le withinLeft.2)
        (Nat.lt_succ_of_le withinRight.2)).mp same
      cases left
      cases right
      simp_all
    · cases foundRight
  · cases foundLeft

/-! ### Places -/

variable {α : Type} {sequenceLength : Nat}

/-- The places of the vector in a slot: those from the first number on, up to and not including the
second. -/
def range (table : VariableTable α sequenceLength) (slot : Slot sequenceLength) : Nat × Nat :=
  (slot.val * table.cardinality, (slot.val + 1) * table.cardinality)

/-- There is a flag for each slot. -/
theorem slot_lt_size (table : VariableTable α sequenceLength) (slot : Slot sequenceLength) :
    slot.val < table.populated.size :=
  table.size_populated.symm ▸ slot.isLt

/-- All places of a slot are places of the array. -/
theorem range_le_size (table : VariableTable α sequenceLength) (slot : Slot sequenceLength) :
    (table.range slot).1 ≤ (table.range slot).2 ∧ (table.range slot).2 ≤ table.values.size := by
  refine ⟨Nat.mul_le_mul_right _ (Nat.le_succ slot.val), ?_⟩
  rw [table.size_values]
  exact Nat.mul_le_mul_right _ slot.isLt

/-- The place of a value in a slot lies within the array. -/
theorem place_lt_size (table : VariableTable α sequenceLength) (slot : Slot sequenceLength)
    (value : Fin table.cardinality) :
    (table.range slot).1 + value.val < table.values.size := by
  refine Nat.lt_of_lt_of_le (Nat.add_lt_add_left value.isLt _) ?_
  rw [range, ← Nat.succ_mul]
  exact (table.range_le_size slot).2

/-! ### Reading -/

/-- A vector was written in the slot. -/
def isWritten (table : VariableTable α sequenceLength) (slot : Slot sequenceLength) : Bool :=
  have inside := table.slot_lt_size slot
  table.populated[slot.val]

/-- The numbers in a slot, whether or not they were written. -/
def slice (table : VariableTable α sequenceLength) (slot : Slot sequenceLength) :
    ValueVector α :=
  List.ofFn fun value : Fin table.cardinality =>
    have inside := table.place_lt_size slot value
    table.values[(table.range slot).1 + value.val]

/-- The vector that was written in a slot, if one was. -/
def vectorAt? (table : VariableTable α sequenceLength) (slot : Slot sequenceLength) :
    Option (ValueVector α) :=
  if table.isWritten slot then some (table.slice slot) else none

/-- The vector that was written at a span, if one was. -/
def get? (table : VariableTable α sequenceLength) (span : Span) : Option (ValueVector α) := do
  let slot ← slot? sequenceLength span
  table.vectorAt? slot

/-- A vector was written at the span. -/
def isPopulated (table : VariableTable α sequenceLength) (span : Span) : Bool :=
  match slot? sequenceLength span with
  | none => false
  | some slot => table.isWritten slot

/-- The numbers at a span within the sequence, whether or not they were written. -/
def read (table : VariableTable α sequenceLength) (span : Span) : Checked (ValueVector α) :=
  match slot? sequenceLength span with
  | none => .error (.outsideSequence span.start span.stop sequenceLength)
  | some slot => .ok (table.slice slot)

/-- The number of spans at which a vector was written. -/
def count (table : VariableTable α sequenceLength) : Nat :=
  table.populated.countP id

theorem length_slice (table : VariableTable α sequenceLength) (slot : Slot sequenceLength) :
    (table.slice slot).length = table.cardinality :=
  List.length_ofFn

theorem length_of_vectorAt? {table : VariableTable α sequenceLength} {slot : Slot sequenceLength}
    {vector : ValueVector α} (found : table.vectorAt? slot = some vector) :
    vector.length = table.cardinality := by
  obtain ⟨_, same⟩ := Option.ite_none_right_eq_some.mp found
  rw [← Option.some.inj same]
  exact table.length_slice slot

/-- A vector that is found at a span has one entry for each value. -/
theorem length_of_get? {table : VariableTable α sequenceLength} {span : Span}
    {vector : ValueVector α} (found : table.get? span = some vector) :
    vector.length = table.cardinality := by
  rw [get?, Option.bind_eq_bind, Option.bind_eq_some_iff] at found
  obtain ⟨slot, _, foundVector⟩ := found
  exact length_of_vectorAt? foundVector

/-! ### Writing -/

/-- An array with some numbers written over those from a place on. -/
def overwrite (values : Array α) (place : Nat) : List α → Array α
  | [] => values
  | entry :: rest => overwrite (values.setIfInBounds place entry) (place + 1) rest

theorem size_overwrite (values : Array α) (place : Nat) (entries : List α) :
    (overwrite values place entries).size = values.size := by
  induction entries generalizing values place with
  | nil => rfl
  | cons entry rest inductionHypothesis =>
    rw [overwrite, inductionHypothesis, Array.size_setIfInBounds]

/-- The table with a vector in a slot. -/
def write (table : VariableTable α sequenceLength) (slot : Slot sequenceLength)
    (vector : ValueVector α) : VariableTable α sequenceLength where
  cardinality := table.cardinality
  values := overwrite table.values (table.range slot).1 (vector.take table.cardinality)
  populated := table.populated.set slot.val true (table.slot_lt_size slot)
  size_values := by rw [size_overwrite, table.size_values]
  size_populated := by rw [Array.size_set, table.size_populated]

/-- The slot for a vector at a span. The span is checked before the length of the vector. -/
def slotFor (table : VariableTable α sequenceLength) (span : Span) (vector : ValueVector α) :
    Built α (Slot sequenceLength) :=
  match slot? sequenceLength span with
  | none => .error (.invalidLocation span sequenceLength)
  | some slot =>
    if vector.length = table.cardinality then
      .ok slot
    else
      malformed (.vectorLength vector.length table.cardinality)

/-- A slot that a table has for a vector is the slot of the span, and the vector fits. -/
theorem slotFor_eq_ok {table : VariableTable α sequenceLength} {span : Span}
    {vector : ValueVector α} {slot : Slot sequenceLength}
    (found : table.slotFor span vector = .ok slot) :
    slot? sequenceLength span = some slot ∧ vector.length = table.cardinality := by
  unfold slotFor at found
  split at found
  · cases found
  · rename_i place foundPlace
    split at found
    · rename_i fits
      cases found
      exact ⟨foundPlace, fits⟩
    · cases found

/-! ### Allocating -/

/-- The table in which nothing was written: all numbers are zero. -/
def blank [Scalar α] (cardinality sequenceLength : Nat) : VariableTable α sequenceLength where
  cardinality := cardinality
  values := Array.replicate ((sequenceLength + 1) * (sequenceLength + 1) * cardinality) 0
  populated := Array.replicate ((sequenceLength + 1) * (sequenceLength + 1)) false
  size_values := Array.size_replicate
  size_populated := Array.size_replicate

/-- Room for a table: its sizes have to be words, and the numbers of all its vectors and a flag for
each slot have to fit into memory. -/
def reserve (cardinality sequenceLength : Nat) : Checked Unit := do
  let side ← Word.add sequenceLength 1
  let slots ← Word.mul side side
  let places ← Word.mul slots cardinality
  Memory.reserve places Memory.numberSize
  Memory.reserve slots Memory.flagSize

end VariableTable

end RecursiveBayes
