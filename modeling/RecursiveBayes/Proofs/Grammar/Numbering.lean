/-
This file relates the names of a vocabulary to their numbers. A declared name has a
number below the size of the vocabulary, and different names have different numbers. So
a sum over numbers is a sum over names.
-/

import RecursiveBayes.Grammar.Vocabulary
import RecursiveBayes.Scalar.Rational

namespace RecursiveBayes

namespace Vocabulary

/-- Where no name is repeated, none is found to be. -/
theorem firstRepeated?_eq_none {seen names : List String} (nodup : names.Nodup)
    (fresh : ∀ name ∈ names, name ∉ seen) : firstRepeated? seen names = none := by
  induction names generalizing seen with
  | nil => rfl
  | cons name rest inductionHypothesis =>
    obtain ⟨notAgain, restNodup⟩ := List.nodup_cons.mp nodup
    rw [firstRepeated?, if_neg (fresh name List.mem_cons_self)]
    refine inductionHypothesis restNodup fun other member inSeen => ?_
    rcases List.mem_cons.mp inSeen with rfl | inSeen
    · exact notAgain member
    · exact fresh other (List.mem_cons_of_mem _ member) inSeen

theorem build_eq_ok_iff {α : Type} {kind : String} {names : List String}
    {vocabulary : Vocabulary} :
    (build kind names : Built α Vocabulary) = .ok vocabulary ↔ vocabulary.names = names := by
  rw [build]
  constructor
  · intro built
    split at built
    · cases built
    · cases built
      rfl
  · rintro rfl
    split
    · rename_i name repeated
      have distinct := firstRepeated?_eq_none vocabulary.nodup fun _ _ => List.not_mem_nil
      cases distinct.symm.trans repeated
    · rfl

theorem lookup_eq_ok_iff {α : Type} {vocabulary : Vocabulary} {name : String} {number : Nat} :
    (vocabulary.lookup name : Built α Nat) = .ok number ↔ vocabulary.get? name = some number := by
  rw [lookup]
  cases vocabulary.get? name with
  | none => exact ⟨fun same => (nomatch same), fun same => (nomatch same)⟩
  | some found =>
    constructor
    · intro same
      cases same
      rfl
    · intro same
      cases same
      rfl

variable {vocabulary : Vocabulary} {name other : String} {number otherNumber : Nat}

theorem lt_size_of_get? (found : vocabulary.get? name = some number) :
    number < vocabulary.size := by
  obtain ⟨inside, _⟩ := List.getElem?_eq_some_iff.mp (vocabulary.get?_eq_some_iff.mp found)
  exact inside

theorem mem_of_get? (found : vocabulary.get? name = some number) : name ∈ vocabulary.names :=
  List.mem_of_getElem? (vocabulary.get?_eq_some_iff.mp found)

theorem exists_get?_of_mem (member : name ∈ vocabulary.names) :
    ∃ number, vocabulary.get? name = some number := by
  obtain ⟨number, found⟩ := List.getElem?_of_mem member
  exact ⟨number, vocabulary.get?_eq_some_iff.mpr found⟩

/-- Names and numbers determine each other. -/
theorem number_eq_iff (found : vocabulary.get? name = some number)
    (otherFound : vocabulary.get? other = some otherNumber) :
    number = otherNumber ↔ name = other := by
  constructor
  · rintro rfl
    have same := (vocabulary.get?_eq_some_iff.mp found).symm.trans
      (vocabulary.get?_eq_some_iff.mp otherFound)
    exact Option.some.inj same
  · rintro rfl
    exact Option.some.inj (found.symm.trans otherFound)

/-- The name at a number is the one that has this number. -/
theorem eq_getD_iff (inside : number < vocabulary.size) :
    name = vocabulary.names.getD number "" ↔ vocabulary.get? name = some number := by
  rw [vocabulary.get?_eq_some_iff, resolve?, List.getD_eq_getElem _ _ inside,
    List.getElem?_eq_getElem inside, Option.some.injEq, eq_comm]

/-- A sum over the numbers of a vocabulary is a sum over its names. -/
theorem sum_range_eq (vocabulary : Vocabulary) {ofNumber : Nat → ℚ} {ofName : String → ℚ}
    (same : ∀ name number, vocabulary.get? name = some number → ofNumber number = ofName name) :
    ∑ number ∈ Finset.range vocabulary.size, ofNumber number =
      ∑ name ∈ vocabulary.names.toFinset, ofName name := by
  have named : ∀ number ∈ Finset.range vocabulary.size,
      vocabulary.get? (vocabulary.names.getD number "") = some number :=
    fun number member => (eq_getD_iff (Finset.mem_range.mp member)).mp rfl
  refine Finset.sum_bij (fun number _ => vocabulary.names.getD number "") ?_ ?_ ?_ ?_
  · intro number member
    exact List.mem_toFinset.mpr (mem_of_get? (named number member))
  · intro number member other otherMember equal
    exact (number_eq_iff (named number member) (named other otherMember)).mpr equal
  · intro name member
    obtain ⟨number, found⟩ := exists_get?_of_mem (List.mem_toFinset.mp member)
    have inside := Finset.mem_range.mpr (lt_size_of_get? found)
    exact ⟨number, inside, (number_eq_iff (named number inside) found).mp rfl⟩
  · intro number member
    exact same _ _ (named number member)

end Vocabulary

end RecursiveBayes
