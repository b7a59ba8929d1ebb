/-
This file holds vocabularies: lists of distinct names in which a name and its
position determine each other. A list with a repeated name is no vocabulary; the
first name that repeats an earlier one is reported.
-/

import RecursiveBayes.Failure.Fault

namespace RecursiveBayes

/-- Distinct names, numbered from zero in their order of declaration. -/
structure Vocabulary where
  names : List String
  nodup : names.Nodup
  deriving DecidableEq

namespace Vocabulary

/-! ### Building -/

/-- The first name that is among the names seen, or repeats an earlier one. -/
def firstRepeated? (seen : List String) : List String → Option String
  | [] => none
  | name :: rest => if name ∈ seen then some name else firstRepeated? (name :: seen) rest

/-- Where no repeated name is found, the names are distinct from each other and from those
seen. -/
theorem distinct_of_firstRepeated? {seen names : List String}
    (distinct : firstRepeated? seen names = none) :
    names.Nodup ∧ ∀ name ∈ names, name ∉ seen := by
  induction names generalizing seen with
  | nil => exact ⟨List.nodup_nil, fun _ member => absurd member List.not_mem_nil⟩
  | cons name rest inductionHypothesis =>
    unfold firstRepeated? at distinct
    split at distinct
    · simp at distinct
    · rename_i fresh
      obtain ⟨restNodup, restFresh⟩ := inductionHypothesis distinct
      refine ⟨List.nodup_cons.mpr ⟨fun member => restFresh name member List.mem_cons_self,
        restNodup⟩, fun other member => ?_⟩
      rcases List.mem_cons.mp member with rfl | member
      · exact fresh
      · exact fun inSeen => restFresh other member (List.mem_cons_of_mem _ inSeen)

/-- The vocabulary of some names. The kind of the names is reported with a repeated one. -/
def build {α : Type} (kind : String) (names : List String) : Built α Vocabulary :=
  match distinct : firstRepeated? [] names with
  | some name => malformed (.duplicateSymbol kind name)
  | none => .ok ⟨names, (distinct_of_firstRepeated? distinct).1⟩

/-! ### Reading -/

/-- The number of names. -/
def size (vocabulary : Vocabulary) : Nat :=
  vocabulary.names.length

/-- There is no name. -/
def isEmpty (vocabulary : Vocabulary) : Bool :=
  vocabulary.names.isEmpty

/-- The number of a name, if it was declared. -/
def get? (vocabulary : Vocabulary) (name : String) : Option Nat :=
  vocabulary.names.idxOf? name

/-- The number of a name, which has to be declared. -/
def lookup {α : Type} (vocabulary : Vocabulary) (name : String) : Built α Nat :=
  match vocabulary.get? name with
  | some number => .ok number
  | none => .error (.unknownSymbol name)

/-- The name with a number, if there is one. -/
def resolve? (vocabulary : Vocabulary) (number : Nat) : Option String :=
  vocabulary.names[number]?

/-- A name has a number exactly when it stands at that position. -/
theorem get?_eq_some_iff (vocabulary : Vocabulary) {name : String} {number : Nat} :
    vocabulary.get? name = some number ↔ vocabulary.resolve? number = some name := by
  unfold get? resolve?
  rw [List.idxOf?_eq_some_iff, List.getElem?_eq_some_iff]
  constructor
  · rintro ⟨inside, same, _⟩
    exact ⟨inside, same⟩
  · rintro ⟨inside, same⟩
    refine ⟨inside, same, fun earlier before equal => ?_⟩
    have different := List.pairwise_iff_getElem.mp vocabulary.nodup earlier number
      (Nat.lt_trans before inside) inside before
    exact different (equal.trans same.symm)

end Vocabulary

end RecursiveBayes
