/-
This file rearranges lists by permutations of their places. A permutation of the
places of a list is taken as one of all numbers that stays below the length of the
list, so that places can be added and compared without their bounds. Sums over all
places, and with them the shares in a total, do not depend on the arrangement.
-/

import RecursiveBayes.Proofs.Weights.Rational

namespace RecursiveBayes

/-! ### Permutations below a bound -/

/-- The permutation moves numbers below the bound to numbers below the bound. -/
def StaysBelow (bound : Nat) (places : Equiv.Perm Nat) : Prop :=
  ∀ place, places place < bound ↔ place < bound

theorem StaysBelow.symm {bound : Nat} {places : Equiv.Perm Nat} (stays : StaysBelow bound places) :
    StaysBelow bound places.symm := by
  intro place
  rw [← stays, places.apply_symm_apply]

/-- A permutation of the numbers below a bound, and the identity on all others. -/
def extended {bound : Nat} (places : Equiv.Perm (Fin bound)) : Equiv.Perm Nat :=
  places.extendDomain Fin.equivSubtype

theorem staysBelow_extended {bound : Nat} (places : Equiv.Perm (Fin bound)) :
    StaysBelow bound (extended places) := by
  intro place
  by_cases inside : place < bound
  · have moved := places.extendDomain_apply_subtype (Fin.equivSubtype (n := bound)) inside
    rw [extended, moved]
    exact iff_of_true (Fin.equivSubtype (n := bound) _).property inside
  · have kept := places.extendDomain_apply_not_subtype (Fin.equivSubtype (n := bound)) inside
    rw [extended, kept]

/-- A sum over all numbers below a bound does not depend on their order. -/
theorem StaysBelow.sum_range {bound : Nat} {places : Equiv.Perm Nat}
    (stays : StaysBelow bound places) (addend : Nat → ℚ) :
    ∑ place ∈ Finset.range bound, addend (places place) =
      ∑ place ∈ Finset.range bound, addend place :=
  Finset.sum_equiv places (fun place => by rw [Finset.mem_range, Finset.mem_range, stays])
    fun _ _ => rfl

/-! ### Rearranged lists -/

variable {Item : Type}

/-- The items of a list, each at the place that the permutation gives to its own. -/
def rearranged (places : Equiv.Perm Nat) (items : List Item) : List Item :=
  (List.range items.length).filterMap fun place => items[places.symm place]?

theorem mem_of_mem_rearranged {places : Equiv.Perm Nat} {items : List Item} {item : Item}
    (member : item ∈ rearranged places items) : item ∈ items := by
  obtain ⟨place, _, found⟩ := List.mem_filterMap.mp member
  exact List.mem_of_getElem? found

/-- No item is missing. The default item is never read. -/
theorem rearranged_eq_map {places : Equiv.Perm Nat} {items : List Item}
    (stays : StaysBelow items.length places) (default : Item) :
    rearranged places items =
      (List.range items.length).map fun place => items.getD (places.symm place) default := by
  rw [rearranged, ← List.filterMap_eq_map]
  refine List.filterMap_congr fun place inside => ?_
  have here := (stays.symm place).mpr (List.mem_range.mp inside)
  rw [Function.comp_apply, List.getD_eq_getElem?_getD, List.getElem?_eq_getElem here,
    Option.getD_some]

theorem length_rearranged {places : Equiv.Perm Nat} {items : List Item}
    (stays : StaysBelow items.length places) :
    (rearranged places items).length = items.length := by
  cases items with
  | nil => rfl
  | cons first rest => rw [rearranged_eq_map stays first, List.length_map, List.length_range]

theorem getElem?_rearranged {places : Equiv.Perm Nat} {items : List Item}
    (stays : StaysBelow items.length places) (place : Nat) :
    (rearranged places items)[place]? = items[places.symm place]? := by
  by_cases inside : place < items.length
  · have here := (stays.symm place).mpr inside
    rw [rearranged_eq_map stays items[places.symm place], List.getElem?_map,
      List.getElem?_range inside, Option.map_some, List.getD_eq_getElem?_getD,
      List.getElem?_eq_getElem here, Option.getD_some]
  · have behind := mt (stays.symm place).mp inside
    rw [List.getElem?_eq_none (Nat.le_of_not_lt behind),
      List.getElem?_eq_none (length_rearranged stays ▸ Nat.le_of_not_lt inside)]

theorem getElem?_rearranged_apply {places : Equiv.Perm Nat} {items : List Item}
    (stays : StaysBelow items.length places) (place : Nat) :
    (rearranged places items)[places place]? = items[place]? := by
  rw [getElem?_rearranged stays, places.symm_apply_apply]

theorem rearranged_refl (items : List Item) : rearranged (Equiv.refl Nat) items = items :=
  List.ext_getElem? fun place => getElem?_rearranged (fun _ => Iff.rfl) place

/-! ### Rearranged vectors -/

namespace ValueVector

theorem ext_getD {left right : ValueVector ℚ} (same : left.length = right.length)
    (entries : ∀ place, left.getD place 0 = right.getD place 0) : left = right := by
  refine List.ext_getElem same fun place insideLeft insideRight => ?_
  rw [← List.getD_eq_getElem left 0 insideLeft, entries, List.getD_eq_getElem right 0 insideRight]

variable {places : Equiv.Perm Nat} {vector : ValueVector ℚ}

theorem firstInvalid?_rearranged (valid : vector.firstInvalid? = none) :
    firstInvalid? (rearranged places vector) = none :=
  List.find?_eq_none.mpr fun entry member =>
    List.find?_eq_none.mp valid entry (mem_of_mem_rearranged member)

theorem getD_rearranged (stays : StaysBelow vector.length places) (place : Nat) :
    (rearranged places vector).getD (places place) 0 = vector.getD place 0 := by
  rw [List.getD_eq_getElem?_getD, getElem?_rearranged_apply stays, List.getD_eq_getElem?_getD]

theorem total_rearranged (stays : StaysBelow vector.length places) :
    total (rearranged places vector) = vector.total := by
  rw [total_eq_sum, total_eq_sum, length_rearranged stays, ← stays.sum_range]
  simp only [getD_rearranged stays]

/-- The shares in a total move with the entries. -/
theorem getD_normalized_rearranged (stays : StaysBelow vector.length places) (place : Nat) :
    (normalized (rearranged places vector)).getD (places place) 0 =
      vector.normalized.getD place 0 := by
  rw [getD_normalized, getD_normalized, total_rearranged stays, getD_rearranged stays]

end ValueVector

end RecursiveBayes
