/-
This file says what a write changes in a table of inside vectors: the vector is
read at the span where it was written, and every other span reads as before. The
places of a slot are those whose quotient by the length of the vectors is the
number of the slot, so distinct slots share no place, and the slots of distinct
spans are distinct.
-/

import RecursiveBayes.Chart.Table

namespace RecursiveBayes

namespace VariableTable

variable {α : Type} {sequenceLength : Nat}

/-! ### Places -/

/-- No place belongs to two slots. -/
theorem slot_eq_of_place {table : VariableTable α sequenceLength} {slot other : Slot sequenceLength}
    {place : Nat} (inside : (table.range slot).1 ≤ place ∧ place < (table.range slot).2)
    (insideOther : (table.range other).1 ≤ place ∧ place < (table.range other).2) :
    slot = other := by
  have quotient (number : Nat) (start : number * table.cardinality ≤ place)
      (stop : place < (number + 1) * table.cardinality) : place / table.cardinality = number :=
    Nat.div_eq_of_lt_le start stop
  exact Fin.ext ((quotient slot.val inside.1 inside.2).symm.trans
    (quotient other.val insideOther.1 insideOther.2))

/-- What is read at a place of an array after some numbers were written over those from another
place on. -/
theorem getElem?_overwrite {values : Array α} {other : Nat} (inside : other < values.size)
    (place : Nat) (entries : List α) :
    (overwrite values place entries)[other]? =
      if place ≤ other then entries[other - place]?.or values[other]? else values[other]? := by
  induction entries generalizing values place with
  | nil => simp only [overwrite, List.getElem?_nil, Option.none_or, ite_self]
  | cons entry rest inductionHypothesis =>
    rw [overwrite, inductionHypothesis (by rwa [Array.size_setIfInBounds]),
      Array.getElem?_setIfInBounds]
    rcases Nat.lt_trichotomy other place with before | rfl | behind
    · rw [if_neg (by omega), if_neg (by omega), if_neg (by omega)]
    · rw [if_neg (by omega), if_pos rfl, if_pos inside, if_pos (Nat.le_refl _), Nat.sub_self,
        List.getElem?_cons_zero, Option.some_or]
    · have next : other - place = other - (place + 1) + 1 := by omega
      rw [if_pos (by omega), if_neg (by omega), if_pos (by omega), next, List.getElem?_cons_succ]

/-- A write changes the places of its slot and no others. -/
theorem getElem?_values_write (table : VariableTable α sequenceLength) (slot : Slot sequenceLength)
    {vector : ValueVector α} (fits : vector.length = table.cardinality) {place : Nat}
    (inside : place < table.values.size) :
    (table.write slot vector).values[place]? =
      if (table.range slot).1 ≤ place ∧ place < (table.range slot).2 then
        vector[place - (table.range slot).1]?
      else
        table.values[place]? := by
  have stop : (table.range slot).2 = (table.range slot).1 + vector.length := by
    rw [range, fits, ← Nat.succ_mul]
  have taken : (table.write slot vector).values =
      overwrite table.values (table.range slot).1 vector :=
    congrArg _ (List.take_of_length_le (Nat.le_of_eq fits))
  rw [taken, getElem?_overwrite inside, stop]
  by_cases start : (table.range slot).1 ≤ place
  · rw [if_pos start]
    by_cases before : place < (table.range slot).1 + vector.length
    · rw [if_pos ⟨start, before⟩, List.getElem?_eq_getElem (by omega), Option.some_or]
    · rw [if_neg fun both => before both.2, List.getElem?_eq_none (by omega), Option.none_or]
  · rw [if_neg start, if_neg fun both => start both.1]

/-- A write changes no other places of the array, whether or not they are places of a span. -/
theorem getElem?_values_write_of_outside (table : VariableTable α sequenceLength)
    (slot : Slot sequenceLength) {vector : ValueVector α} (fits : vector.length = table.cardinality)
    {place : Nat} (outside : ¬ ((table.range slot).1 ≤ place ∧ place < (table.range slot).2)) :
    (table.write slot vector).values[place]? = table.values[place]? := by
  by_cases inside : place < table.values.size
  · rw [table.getElem?_values_write slot fits inside, if_neg outside]
  · have beyond : (table.write slot vector).values.size ≤ place := by
      rw [(table.write slot vector).size_values, write, ← table.size_values]
      exact Nat.not_lt.mp inside
    rw [Array.getElem?_eq_none beyond, Array.getElem?_eq_none (Nat.not_lt.mp inside)]

theorem getElem?_slice (table : VariableTable α sequenceLength) (slot : Slot sequenceLength)
    (value : Nat) :
    (table.slice slot)[value]? =
      if value < table.cardinality then table.values[(table.range slot).1 + value]? else none := by
  rw [slice, List.getElem?_ofFn]
  split
  · rename_i valueLt
    exact (Array.getElem?_eq_getElem (table.place_lt_size slot ⟨value, valueLt⟩)).symm
  · rfl

/-- The numbers in a slot are the stretch of the array that the slot ranges over. -/
theorem slice_eq_extract (table : VariableTable α sequenceLength) (slot : Slot sequenceLength) :
    table.slice slot =
      (table.values.extract (table.range slot).1 (table.range slot).2).toList := by
  have width : (table.range slot).2 - (table.range slot).1 = table.cardinality := by
    rw [range, Nat.succ_mul slot.val, Nat.add_sub_cancel_left]
  refine List.ext_getElem? fun value => ?_
  rw [getElem?_slice, Array.getElem?_toList, Array.getElem?_extract,
    Nat.min_eq_left (table.range_le_size slot).2, width]

/-- The places of the values of a slot are places of the slot. -/
theorem mem_range_of_lt (table : VariableTable α sequenceLength) (slot : Slot sequenceLength)
    {value : Nat} (valueLt : value < table.cardinality) :
    (table.range slot).1 ≤ (table.range slot).1 + value ∧
      (table.range slot).1 + value < (table.range slot).2 := by
  refine ⟨Nat.le_add_right _ _, ?_⟩
  rw [range, Nat.succ_mul slot.val]
  exact Nat.add_lt_add_left valueLt _

/-! ### Slots -/

/-- What is written in a slot is read from it, and a write leaves the numbers in every other slot as
they were. -/
theorem slice_write (table : VariableTable α sequenceLength) (slot : Slot sequenceLength)
    {vector : ValueVector α} (fits : vector.length = table.cardinality)
    (other : Slot sequenceLength) :
    (table.write slot vector).slice other = if other = slot then vector else table.slice other := by
  refine List.ext_getElem? fun value => ?_
  rw [getElem?_slice]
  by_cases valueLt : value < table.cardinality
  · have inside := table.place_lt_size other ⟨value, valueLt⟩
    have places := table.mem_range_of_lt other valueLt
    refine ((if_pos valueLt).trans (table.getElem?_values_write slot fits inside)).trans ?_
    by_cases same : other = slot
    · subst same
      rw [if_pos places, if_pos rfl, Nat.add_sub_cancel_left]
    · rw [if_neg fun written => same (slot_eq_of_place places written), if_neg same,
        getElem?_slice, if_pos valueLt]
  · refine (if_neg valueLt).trans (Eq.symm (List.getElem?_eq_none ?_))
    rw [apply_ite List.length, fits, length_slice, ite_self]
    exact Nat.not_lt.mp valueLt

/-- A write populates its slot and no other. -/
theorem isWritten_write (table : VariableTable α sequenceLength) (slot other : Slot sequenceLength)
    (vector : ValueVector α) :
    (table.write slot vector).isWritten other =
      if other = slot then true else table.isWritten other := by
  refine (Array.getElem_set (table.slot_lt_size slot)
    ((table.write slot vector).slot_lt_size other)).trans ?_
  exact ite_congr (propext ⟨fun same => Fin.ext same.symm, fun same => congrArg _ same.symm⟩)
    (fun _ => rfl) fun _ => rfl

/-- What is written in a slot is read from it, and every other slot reads as before. -/
theorem vectorAt?_write (table : VariableTable α sequenceLength) (slot : Slot sequenceLength)
    {vector : ValueVector α} (fits : vector.length = table.cardinality)
    (other : Slot sequenceLength) :
    (table.write slot vector).vectorAt? other =
      if other = slot then some vector else table.vectorAt? other := by
  rw [vectorAt?, vectorAt?, isWritten_write, slice_write table slot fits]
  by_cases same : other = slot
  · rw [if_pos same, if_pos same, if_pos same, if_pos rfl]
  · rw [if_neg same, if_neg same, if_neg same]

/-! ### Spans -/

/-- After a vector was written at a span, it is read there, and everything else reads as
before. -/
theorem get?_write (table : VariableTable α sequenceLength) {span : Span}
    {slot : Slot sequenceLength} {vector : ValueVector α}
    (found : slot? sequenceLength span = some slot)
    (fits : vector.length = table.cardinality) (other : Span) :
    (table.write slot vector).get? other =
      if other = span then some vector else table.get? other := by
  unfold get?
  cases foundOther : slot? sequenceLength other with
  | none =>
    rw [if_neg]
    · rfl
    · rintro rfl
      rw [found] at foundOther
      cases foundOther
  | some otherSlot =>
    simp only [Option.bind_eq_bind, Option.bind_some]
    rw [vectorAt?_write table slot fits]
    by_cases same : other = span
    · subst same
      rw [found, Option.some.injEq] at foundOther
      rw [if_pos foundOther.symm, if_pos rfl]
    · rw [if_neg same, if_neg]
      rintro rfl
      exact same (slot?_injective foundOther found)

/-! ### Blank tables -/

section Blank

variable [Scalar α]

theorem isWritten_blank (cardinality : Nat) (slot : Slot sequenceLength) :
    (blank cardinality sequenceLength : VariableTable α sequenceLength).isWritten slot = false := by
  simp only [isWritten, blank, Array.getElem_replicate]

theorem slice_blank (cardinality : Nat) (slot : Slot sequenceLength) :
    (blank cardinality sequenceLength : VariableTable α sequenceLength).slice slot =
      ValueVector.zeros cardinality := by
  refine List.eq_replicate_iff.mpr ⟨length_slice _ slot, fun entry member => ?_⟩
  obtain ⟨value, read⟩ := List.mem_ofFn.mp member
  exact read.symm.trans
    (Array.getElem_replicate ((blank cardinality sequenceLength).place_lt_size slot value))

theorem get?_blank (cardinality sequenceLength : Nat) (span : Span) :
    (blank cardinality sequenceLength : VariableTable α sequenceLength).get? span = none := by
  unfold get?
  cases slot? sequenceLength span with
  | none => rfl
  | some slot =>
    simp only [Option.bind_eq_bind, Option.bind_some, vectorAt?, isWritten_blank,
      Bool.false_eq_true, if_false]

end Blank

end VariableTable

end RecursiveBayes
