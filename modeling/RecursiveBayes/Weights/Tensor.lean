/-
This file holds tables of weights that condition on a parent value. The leading
axes of a table say what the parent generates and its last axis is the parent,
so the entries of one parent lie `parents` apart in memory. The leading axes are
counted together as rows: an outcome with several coordinates has one row number,
with the last coordinate running fastest.

Normalizing a table gives each parent value a distribution over the outcomes, or
zeros everywhere if the parent value generates nothing.
-/

import RecursiveBayes.Sizes
import RecursiveBayes.Weights.ValueVector

namespace RecursiveBayes

/-- A table with `rank` axes of outcomes and a last axis for the parent, stored with the last
axis running fastest. -/
structure Tensor (α : Type) (rank : Nat) where
  /-- The sizes of the axes of outcomes. -/
  outcomes : Vector Nat rank
  /-- The size of the parent axis. -/
  parents : Nat
  entries : Array α
  size_entries : entries.size = Sizes.product outcomes.toList * parents
  deriving DecidableEq

namespace Tensor

variable {α : Type} {rank : Nat}

/-- The number of outcomes, counted over all axes but the last. -/
def rows (tensor : Tensor α rank) : Nat :=
  Sizes.product tensor.outcomes.toList

/-- The number of outcomes that differ in their last coordinate only. -/
def lineLength (tensor : Tensor α rank) : Nat :=
  tensor.outcomes.toList.getLast?.getD 1

/-- The outcomes fall into whole lines. -/
theorem lineLength_dvd_rows (tensor : Tensor α rank) : tensor.lineLength ∣ tensor.rows := by
  rw [lineLength, rows]
  cases last : tensor.outcomes.toList.getLast? with
  | none => exact Nat.one_dvd _
  | some size => exact Sizes.dvd_product (List.mem_of_getLast? last)

/-- The sizes of all axes, the parent axis last. -/
def shape (tensor : Tensor α rank) : List Nat :=
  tensor.outcomes.toList ++ [tensor.parents]

/-- A table has no entries when one of its axes is empty. -/
def isEmpty (tensor : Tensor α rank) : Bool :=
  tensor.entries.isEmpty

/-! ### Places -/

/-- The place of a row and a parent value lies within the table. -/
theorem place_lt {rows parents row parent : Nat} (rowLt : row < rows)
    (parentLt : parent < parents) : row * parents + parent < rows * parents := by
  have next := Nat.mul_le_mul_right parents (Nat.succ_le_of_lt rowLt)
  rw [Nat.succ_mul] at next
  omega

theorem row_place {parents parent : Nat} (row : Nat) (parentLt : parent < parents) :
    (row * parents + parent) / parents = row := by
  rw [Nat.mul_comm, Nat.mul_add_div (by omega), Nat.div_eq_of_lt parentLt, Nat.add_zero]

theorem parent_place {parents parent : Nat} (row : Nat) (parentLt : parent < parents) :
    (row * parents + parent) % parents = parent := by
  rw [Nat.mul_add_mod_self_right, Nat.mod_eq_of_lt parentLt]

/-- The number of a place determines its row and its parent value. -/
theorem place_eq_iff {parents row parent otherRow otherParent : Nat} (parentLt : parent < parents)
    (otherLt : otherParent < parents) :
    row * parents + parent = otherRow * parents + otherParent ↔
      row = otherRow ∧ parent = otherParent := by
  constructor
  · intro same
    have rows := congrArg (fun place => place / parents) same
    have columns := congrArg (fun place => place % parents) same
    simp only [row_place _ parentLt, row_place _ otherLt, parent_place _ parentLt,
      parent_place _ otherLt] at rows columns
    exact ⟨rows, columns⟩
  · rintro ⟨rfl, rfl⟩
    rfl

/-! ### Building tables -/

/-- The table with the given sizes and entries, if there are as many entries as places. -/
def ofEntries? (outcomes : Vector Nat rank) (parents : Nat) (entries : Array α) :
    Option (Tensor α rank) :=
  if fits : entries.size = Sizes.product outcomes.toList * parents then
    some ⟨outcomes, parents, entries, fits⟩
  else
    none

/-- The table whose entry at each row and parent is given by a function. -/
def generate (outcomes : Vector Nat rank) (parents : Nat) (entry : Nat → Nat → α) :
    Tensor α rank where
  outcomes := outcomes
  parents := parents
  entries := Array.ofFn fun place : Fin (Sizes.product outcomes.toList * parents) =>
    entry (place.val / parents) (place.val % parents)
  size_entries := Array.size_ofFn

variable [Scalar α]

/-- The table that gives every outcome no weight. -/
def zeros (outcomes : Vector Nat rank) (parents : Nat) : Tensor α rank where
  outcomes := outcomes
  parents := parents
  entries := Array.replicate (Sizes.product outcomes.toList * parents) 0
  size_entries := Array.size_replicate

/-! ### Reading and changing entries -/

/-- The entry of an outcome and a parent value, and zero outside the table. -/
def entry (tensor : Tensor α rank) (row parent : Nat) : α :=
  if parent < tensor.parents then tensor.entries.getD (row * tensor.parents + parent) 0 else 0

/-- A generated table holds what it was generated from. -/
theorem entry_generate (outcomes : Vector Nat rank) (parents : Nat) (weight : Nat → Nat → α)
    {row parent : Nat} (rowLt : row < Sizes.product outcomes.toList) (parentLt : parent < parents) :
    (generate outcomes parents weight).entry row parent = weight row parent := by
  have inside := place_lt rowLt parentLt
  have parentLtHere : parent < (generate outcomes parents weight).parents := parentLt
  rw [entry, if_pos parentLtHere, Array.getD_eq_getD_getElem?]
  simp only [generate, Array.getElem?_ofFn, dif_pos inside, Option.getD_some,
    row_place row parentLt, parent_place row parentLt]

theorem entry_zeros (outcomes : Vector Nat rank) (parents row parent : Nat) :
    (zeros outcomes parents : Tensor α rank).entry row parent = 0 := by
  unfold entry
  split
  · rw [Array.getD_eq_getD_getElem?, zeros, Array.getElem?_replicate]
    split <;> rfl
  · rfl

/-- There is no weight outside a table. -/
theorem entry_eq_zero (tensor : Tensor α rank) {row parent : Nat}
    (outside : tensor.rows ≤ row ∨ tensor.parents ≤ parent) : tensor.entry row parent = 0 := by
  unfold entry
  split
  · rename_i parentLt
    have rowsLe := outside.resolve_right (Nat.not_le.mpr parentLt)
    have sizes := Nat.mul_le_mul_right tensor.parents rowsLe
    have size := tensor.size_entries
    rw [Array.getD_eq_getD_getElem?, Array.getElem?_eq_none, Option.getD_none]
    exact Nat.le_trans (by rw [size]; exact sizes) (Nat.le_add_right _ _)
  · rfl

/-- The entries of one outcome, one for each parent value. -/
def row (tensor : Tensor α rank) (row : Nat) : ValueVector α :=
  (List.range tensor.parents).map fun parent => tensor.entry row parent

/-- The table with a number added to the entry of an outcome and a parent value. Places outside
the table stay outside. -/
def addAt (tensor : Tensor α rank) (row parent : Nat) (addend : α) : Tensor α rank where
  outcomes := tensor.outcomes
  parents := tensor.parents
  entries := tensor.entries.modify (row * tensor.parents + parent) fun entry => entry + addend
  size_entries := by rw [Array.size_modify, tensor.size_entries]

/-- Adding at one place changes the entry there and no other. -/
theorem entry_addAt (tensor : Tensor α rank) {row parent : Nat} (addend : α)
    (rowLt : row < tensor.rows) (parentLt : parent < tensor.parents) (otherRow otherParent : Nat) :
    (tensor.addAt row parent addend).entry otherRow otherParent =
      if otherRow = row ∧ otherParent = parent then tensor.entry row parent + addend
      else tensor.entry otherRow otherParent := by
  by_cases same : otherRow = row ∧ otherParent = parent
  · obtain ⟨rfl, rfl⟩ := same
    have inside := place_lt rowLt parentLt
    rw [if_pos ⟨rfl, rfl⟩]
    have bound : otherRow * tensor.parents + otherParent < tensor.entries.size := by
      rw [tensor.size_entries]
      exact inside
    simp only [entry, addAt, if_pos parentLt, Array.getD_eq_getD_getElem?,
      Array.getElem?_modify, if_pos, Array.getElem?_eq_getElem bound, Option.map_some,
      Option.getD_some]
  · rw [if_neg same]
    unfold entry
    show (if otherParent < tensor.parents then _ else _) = _
    split
    · rename_i otherLt
      have apart : row * tensor.parents + parent ≠ otherRow * tensor.parents + otherParent := by
        rw [ne_eq, place_eq_iff parentLt otherLt]
        exact fun equal => same ⟨equal.1.symm, equal.2.symm⟩
      simp only [addAt, Array.getD_eq_getD_getElem?, Array.getElem?_modify, if_neg apart]
    · rfl

/-- The sum of all entries, which lie side by side. -/
def total (tensor : Tensor α rank) : α :=
  ValueVector.total tensor.entries.toList

/-! ### Weights and probabilities -/

/-- The first entry that is no weight, in the order in which the entries are stored. The search
for it starts only when it is known that there is one. -/
def firstInvalid? (tensor : Tensor α rank) : Option α :=
  if tensor.entries.all Scalar.isWeight then
    none
  else
    tensor.entries.find? fun entry => !Scalar.isWeight entry

theorem firstInvalid?_eq_firstInvalid?_toList (tensor : Tensor α rank) :
    tensor.firstInvalid? = ValueVector.firstInvalid? tensor.entries.toList := by
  rw [firstInvalid?, ValueVector.firstInvalid?, Array.find?_toList]
  split
  · rename_i allWeights
    refine (Array.find?_eq_none.mpr fun entry member => ?_).symm
    rw [Array.all_eq_true_iff_forall_mem.mp allWeights entry member]
    decide
  · rfl

/-- The total weight of a parent value over all outcomes. The entries of an only parent are all
entries. Those of one of several parents lie apart, and are added up line by line. -/
def parentTotal (tensor : Tensor α rank) (parent : Nat) : α :=
  if tensor.parents = 1 then
    tensor.total
  else
    ValueVector.totalBelow (tensor.rows / tensor.lineLength) fun line =>
      ValueVector.totalBelow tensor.lineLength fun place =>
        tensor.entry (line * tensor.lineLength + place) parent

/-- The table of the shares that the outcomes of each parent value have in its total weight. -/
def normalized (tensor : Tensor α rank) : Tensor α rank where
  outcomes := tensor.outcomes
  parents := tensor.parents
  entries :=
    let totals := Array.ofFn fun parent : Fin tensor.parents => tensor.parentTotal parent.val
    tensor.entries.mapIdx fun place entry =>
      ValueVector.share (totals.getD (place % tensor.parents) 0) entry
  size_entries := by rw [Array.size_mapIdx, tensor.size_entries]

/-- An entry of the normalized table is the share of the weight in the total of its parent. -/
theorem entry_normalized (tensor : Tensor α rank) {row parent : Nat} (rowLt : row < tensor.rows)
    (parentLt : parent < tensor.parents) :
    tensor.normalized.entry row parent =
      ValueVector.share (tensor.parentTotal parent) (tensor.entry row parent) := by
  have inside : row * tensor.parents + parent < tensor.entries.size := by
    rw [tensor.size_entries]
    exact place_lt rowLt parentLt
  have parentLtHere : parent < tensor.normalized.parents := parentLt
  rw [entry, if_pos parentLtHere, entry, if_pos parentLt]
  simp only [normalized, Array.getD_eq_getD_getElem?, Array.getElem?_mapIdx,
    Array.getElem?_eq_getElem inside, Option.map_some, Option.getD_some,
    parent_place row parentLt, Array.getElem?_ofFn, dif_pos parentLt]

end Tensor

end RecursiveBayes
