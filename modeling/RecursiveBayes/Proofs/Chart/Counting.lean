/-
This file counts the vectors that were written into a chart. The count is taken
over the slots of all tables, the places over the variables and spans; they agree
because every slot that is ever written is the slot of one span. A write at a new
place adds one to both, a write at an old one changes neither.
-/

import Mathlib.Data.Finset.Card
import RecursiveBayes.Proofs.Chart.Entries

namespace RecursiveBayes

variable {α : Type}

/-! ### Sums over a list -/

/-- Changing one item of a list changes the sum by what is measured of this item. -/
theorem Sizes.total_map_modify {Item : Type} (measure : Item → Nat) (change : Item → Item)
    {items : List Item} {place : Nat} {item : Item} (found : items[place]? = some item) :
    total ((items.modify place change).map measure) + measure item =
      total (items.map measure) + measure (change item) := by
  induction items generalizing place with
  | nil => cases found
  | cons head rest inductionHypothesis =>
    cases place with
    | zero =>
      cases found
      simp only [List.modify_zero_cons, List.map_cons, total]
      omega
    | succ place =>
      have others := inductionHypothesis found
      simp only [List.modify_succ_cons, List.map_cons, total]
      omega

theorem Sizes.total_map_eq_zero {Item : Type} {measure : Item → Nat} {items : List Item}
    (zero : ∀ item ∈ items, measure item = 0) : total (items.map measure) = 0 := by
  induction items with
  | nil => rfl
  | cons head rest inductionHypothesis =>
    rw [List.map_cons, total, zero head List.mem_cons_self,
      inductionHypothesis fun item member => zero item (List.mem_cons_of_mem _ member)]

/-! ### Tables -/

namespace VariableTable

variable {sequenceLength : Nat}

theorem count_blank [Scalar α] (cardinality : Nat) :
    (blank cardinality sequenceLength : VariableTable α sequenceLength).count = 0 := by
  rw [count, blank, Array.countP_replicate]
  rfl

/-- A write counts one more vector, unless there was one in the slot already. -/
theorem count_write (table : VariableTable α sequenceLength) (slot : Slot sequenceLength)
    (vector : ValueVector α) :
    (table.write slot vector).count =
      if (table.vectorAt? slot).isSome then table.count else table.count + 1 := by
  have inside := table.slot_lt_size slot
  have here : (table.vectorAt? slot).isSome = table.populated[slot.val] := by
    rw [vectorAt?, isWritten]
    cases table.populated[slot.val] <;> rfl
  rw [here]
  refine (Array.countP_set inside).trans ?_
  cases written : table.populated[slot.val] with
  | false => rfl
  | true =>
    have counted : 1 ≤ table.populated.countP id :=
      Array.one_le_countP_iff.mpr ⟨_, Array.getElem_mem inside, written⟩
    exact Nat.sub_add_cancel counted

end VariableTable

/-! ### Charts -/

namespace InsideChart

/-- The chart counts one vector for every variable and span that has one. -/
def Counted (chart : InsideChart α) : Prop :=
  ∀ places : Finset (Nat × Span),
    (∀ index span, (index, span) ∈ places ↔ (chart.get? index span).isSome) →
      chart.count = places.card

theorem counted_blank [Scalar α] (cardinalities : List Nat) (sequenceLength : Nat) :
    (blank cardinalities sequenceLength : InsideChart α).Counted := by
  intro places written
  have none : places = ∅ := Finset.eq_empty_of_forall_notMem fun place member => by
    rw [← Prod.mk.eta (p := place), written, get?_blank] at member
    exact Bool.false_ne_true member
  rw [none, Finset.card_empty, count, blank, List.map_map]
  exact Sizes.total_map_eq_zero fun cardinality _ => VariableTable.count_blank cardinality

/-- A write counts one more vector, unless there was one for the variable at the span already. -/
theorem count_write {chart : InsideChart α} {index : Nat}
    {slot : VariableTable.Slot chart.sequenceLength} {span : Span} {vector : ValueVector α}
    (accepted : chart.slotFor index span vector = .ok slot) :
    (chart.write index slot vector).count =
      if (chart.get? index span).isSome then chart.count else chart.count + 1 := by
  rw [slotFor] at accepted
  cases found : chart.tables[index]? with
  | none =>
    rw [found] at accepted
    cases accepted
  | some table =>
    rw [found] at accepted
    obtain ⟨foundSlot, fits⟩ := VariableTable.slotFor_eq_ok accepted
    have read : chart.get? index span = table.vectorAt? slot := by
      simp only [get?, VariableTable.get?, found, foundSlot, Option.bind_eq_bind,
        Option.bind_some]
    have one := table.count_write slot vector
    have all := Sizes.total_map_modify VariableTable.count (fun table => table.write slot vector)
      found
    have after : (chart.write index slot vector).count = Sizes.total
        ((chart.tables.modify index fun table => table.write slot vector).map
          VariableTable.count) := rfl
    simp only [one] at all
    rw [read, after, count]
    split at all
    · rename_i written
      rw [if_pos written]
      omega
    · rename_i unwritten
      rw [if_neg unwritten]
      omega

theorem Counted.write {chart : InsideChart α} (counted : chart.Counted) {index : Nat}
    {slot : VariableTable.Slot chart.sequenceLength} {span : Span} {vector : ValueVector α}
    (accepted : chart.slotFor index span vector = .ok slot) :
    (chart.write index slot vector).Counted := by
  intro places written
  simp only [get?_write accepted] at written
  have here : (index, span) ∈ places := by
    rw [written, if_pos ⟨rfl, rfl⟩]
    rfl
  rw [count_write accepted]
  split
  · rename_i before
    refine counted places fun other otherSpan => ?_
    rw [written]
    split
    · rename_i same
      obtain ⟨rfl, rfl⟩ := same
      exact ⟨fun _ => before, fun _ => rfl⟩
    · exact Iff.rfl
  · rename_i before
    have others := counted (places.erase (index, span)) fun other otherSpan => by
      rw [Finset.mem_erase, written, ne_eq, Prod.mk.injEq]
      split
      · rename_i same
        obtain ⟨rfl, rfl⟩ := same
        exact ⟨fun both => absurd ⟨rfl, rfl⟩ both.1, fun held => absurd held before⟩
      · rename_i different
        exact ⟨fun both => both.2, fun held => ⟨different, held⟩⟩
    rw [others, Finset.card_erase_add_one here]

end InsideChart

end RecursiveBayes
