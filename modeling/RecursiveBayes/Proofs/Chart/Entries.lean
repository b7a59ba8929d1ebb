/-
This file describes a whole chart by what it holds for each variable at each span.
A write is accepted exactly for a variable of the chart, a span within the sequence
and a vector that fits the variable; it changes the one entry it is meant for. A
chart that was just allocated holds nothing, and an allocation succeeds exactly if
the tables of all variables fit into memory.
-/

import RecursiveBayes.Chart.Inside
import RecursiveBayes.Chart.Written
import RecursiveBayes.Proofs.Protocol.Running

namespace RecursiveBayes

variable {α : Type}

/-! ### Room -/

theorem Word.checked_eq_ok_iff {value result : Nat} :
    Word.checked value = .ok result ↔ value < Word.limit ∧ value = result := by
  rw [checked]
  split
  · rename_i fits
    exact ⟨fun same => ⟨fits, Except.ok.inj same⟩, fun both => congrArg _ both.2⟩
  · rename_i tooLarge
    exact ⟨fun same => (nomatch same), fun both => absurd both.1 tooLarge⟩

theorem Memory.reserve_eq_ok_iff {entries entrySize : Nat} {result : Unit} :
    Memory.reserve entries entrySize = .ok result ↔
      entrySize * entries ≤ Memory.largestObject := by
  rw [reserve]
  split
  · rename_i fits
    exact ⟨fun _ => fits, fun _ => rfl⟩
  · rename_i tooLarge
    exact ⟨fun same => (nomatch same), fun fits => absurd fits tooLarge⟩

/-! ### Tables -/

namespace VariableTable

variable {sequenceLength : Nat}

/-- Only spans within the sequence are ever found. -/
theorem within_of_get? {table : VariableTable α sequenceLength} {span : Span}
    {vector : ValueVector α} (found : table.get? span = some vector) :
    span.Within sequenceLength := by
  by_cases within : span.Within sequenceLength
  · exact within
  · rw [get?, slot?_eq_none within] at found
    cases found

theorem slotFor_eq_ok_of_within (table : VariableTable α sequenceLength) {span : Span}
    {vector : ValueVector α} (within : span.Within sequenceLength)
    (fits : vector.length = table.cardinality) :
    ∃ slot, table.slotFor span vector = .ok slot := by
  rw [slotFor, slot?_eq_some within]
  exact ⟨_, if_pos fits⟩

/-- There is room for a table exactly if its numbers and its flags fit into memory. -/
theorem reserve_eq_ok_iff {cardinality : Nat} :
    reserve cardinality sequenceLength = .ok () ↔
      Memory.numberSize * ((sequenceLength + 1) * (sequenceLength + 1) * cardinality) ≤
          Memory.largestObject ∧
        (sequenceLength + 1) * (sequenceLength + 1) ≤ Memory.largestObject := by
  have side : sequenceLength + 1 ≤ (sequenceLength + 1) * (sequenceLength + 1) :=
    Nat.le_mul_of_pos_right _ (Nat.succ_pos _)
  rw [reserve, Word.add]
  simp only [Word.mul, bind_eq_ok_iff, Word.checked_eq_ok_iff, Memory.reserve_eq_ok_iff,
    Memory.numberSize, Memory.flagSize, Memory.largestObject, Word.limit]
  constructor
  · rintro ⟨_, ⟨_, rfl⟩, _, ⟨_, rfl⟩, _, ⟨_, rfl⟩, _, numbers, flags⟩
    exact ⟨numbers, by omega⟩
  · rintro ⟨numbers, flags⟩
    exact ⟨_, ⟨by omega, rfl⟩, _, ⟨by omega, rfl⟩, _, ⟨by omega, rfl⟩, (), numbers, by omega⟩

end VariableTable

/-! ### Charts -/

namespace InsideChart

/-- The numbers of values of the variables, in order. -/
def cardinalities (chart : InsideChart α) : List Nat :=
  chart.tables.map VariableTable.cardinality

theorem cardinality?_eq (chart : InsideChart α) (index : Nat) :
    chart.cardinality? index = chart.cardinalities[index]? :=
  List.getElem?_map.symm

theorem get?_eq_some_iff {chart : InsideChart α} {index : Nat} {span : Span}
    {vector : ValueVector α} :
    chart.get? index span = some vector ↔
      ∃ table, chart.tables[index]? = some table ∧ table.get? span = some vector := by
  rw [get?, Option.bind_eq_bind, Option.bind_eq_some_iff]

/-- Only spans within the sequence are ever found. -/
theorem within_of_get? {chart : InsideChart α} {index : Nat} {span : Span}
    {vector : ValueVector α} (found : chart.get? index span = some vector) :
    span.Within chart.sequenceLength := by
  obtain ⟨_, _, foundVector⟩ := get?_eq_some_iff.mp found
  exact VariableTable.within_of_get? foundVector

/-- A vector that is found has one entry for each value of its variable. -/
theorem cardinality?_of_get? {chart : InsideChart α} {index : Nat} {span : Span}
    {vector : ValueVector α} (found : chart.get? index span = some vector) :
    chart.cardinality? index = some vector.length := by
  obtain ⟨table, foundTable, foundVector⟩ := get?_eq_some_iff.mp found
  rw [cardinality?, foundTable, Option.map_some, VariableTable.length_of_get? foundVector]

/-! ### Listing -/

/-- A chart accepts a vector exactly for one of its variables that the vector fits, at a span
within the sequence. -/
theorem exists_slotFor_iff {chart : InsideChart α} {index : Nat} {span : Span}
    {vector : ValueVector α} :
    (∃ slot, chart.slotFor index span vector = .ok slot) ↔
      chart.cardinality? index = some vector.length ∧ span.Within chart.sequenceLength := by
  rw [slotFor, cardinality?]
  cases chart.tables[index]? with
  | none => exact ⟨fun ⟨_, accepted⟩ => (nomatch accepted), fun both => (nomatch both.1)⟩
  | some table =>
    rw [Option.map_some, Option.some.injEq]
    constructor
    · rintro ⟨slot, accepted⟩
      obtain ⟨foundSlot, fits⟩ := VariableTable.slotFor_eq_ok accepted
      refine ⟨fits.symm, ?_⟩
      by_cases within : span.Within chart.sequenceLength
      · exact within
      · rw [VariableTable.slot?_eq_none within] at foundSlot
        cases foundSlot
    · rintro ⟨fits, within⟩
      exact table.slotFor_eq_ok_of_within within fits.symm

/-- After an accepted write, the vector is found where it was written and everything else is
found as before. -/
theorem get?_write {chart : InsideChart α} {index : Nat}
    {slot : VariableTable.Slot chart.sequenceLength} {span : Span} {vector : ValueVector α}
    (accepted : chart.slotFor index span vector = .ok slot)
    (other : Nat) (otherSpan : Span) :
    (chart.write index slot vector).get? other otherSpan =
      if other = index ∧ otherSpan = span then some vector else chart.get? other otherSpan := by
  rw [slotFor] at accepted
  cases found : chart.tables[index]? with
  | none =>
    rw [found] at accepted
    cases accepted
  | some table =>
    rw [found] at accepted
    obtain ⟨foundSlot, fits⟩ := VariableTable.slotFor_eq_ok accepted
    rw [get?, get?, write, List.getElem?_modify]
    by_cases same : index = other
    · subst same
      simp only [found, if_true, Option.map_eq_map, Option.map_some, Option.bind_eq_bind,
        Option.bind_some, true_and]
      exact table.get?_write foundSlot fits otherSpan
    · rw [if_neg fun both => same both.1.symm]
      simp only [if_neg same, Option.map_eq_map, Option.map_id']

theorem cardinalities_write (chart : InsideChart α) (index : Nat)
    (slot : VariableTable.Slot chart.sequenceLength) (vector : ValueVector α) :
    (chart.write index slot vector).cardinalities = chart.cardinalities := by
  refine List.ext_getElem? fun other => ?_
  rw [cardinalities, cardinalities, write, List.getElem?_map, List.getElem?_map,
    List.getElem?_modify, Option.map_eq_map, Option.map_map]
  refine congrArg (fun change => Option.map change _) (funext fun table => ?_)
  rw [Function.comp_apply]
  split
  · rfl
  · rfl

/-! ### Allocating -/

section Allocating

variable [Scalar α]

theorem get?_blank (cardinalities : List Nat) (sequenceLength index : Nat) (span : Span) :
    (blank cardinalities sequenceLength : InsideChart α).get? index span = none := by
  rw [get?, blank, List.getElem?_map]
  cases cardinalities[index]? with
  | none => rfl
  | some cardinality => exact VariableTable.get?_blank cardinality sequenceLength span

theorem cardinalities_blank (cardinalities : List Nat) (sequenceLength : Nat) :
    (blank cardinalities sequenceLength : InsideChart α).cardinalities = cardinalities := by
  rw [InsideChart.cardinalities, blank, List.map_map]
  exact List.map_id' cardinalities

/-- A chart is allocated exactly if there is room for the tables of all its variables. -/
theorem allocate_eq_ok_iff {cardinalities : List Nat} {sequenceLength : Nat} :
    (allocate cardinalities sequenceLength : Checked (InsideChart α)) =
        .ok (blank cardinalities sequenceLength) ↔
      ∀ cardinality ∈ cardinalities, VariableTable.reserve cardinality sequenceLength = .ok () := by
  rw [allocate, bind_eq_ok_iff, ← forM_eq_ok_iff]
  exact ⟨fun ⟨_, room, _⟩ => room, fun room => ⟨(), room, rfl⟩⟩

end Allocating

end InsideChart

end RecursiveBayes
