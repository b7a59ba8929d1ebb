/-
This file says how a cell explains a location whose parts are already explained.
A location is a span, or a stretch of observations, or anything else that has an
observation if it is a single position, and parts if it is longer. The vector of
a cell depends on nothing but these and the vectors of the parts, so it stays the
same when the location is described in another way.

Nothing here can fail: whether the vectors of the parts are there to be read is a
question of its own.
-/

import Mathlib.Data.List.Basic
import RecursiveBayes.Cell.Basic
import RecursiveBayes.Proofs.Transition.Contraction

namespace RecursiveBayes

/-- What can be seen of a location: the observation at it, if it is a single position, and its
left and right part for each of its split points. -/
structure Analysis (Location : Type) where
  observation? : Option (Option Nat)
  parts : List (Location × Location)

/-- The analysis of a location that is described in another way. -/
def Analysis.map {Location Other : Type} (describe : Location → Other)
    (analysis : Analysis Location) : Analysis Other where
  observation? := analysis.observation?
  parts := analysis.parts.map fun pair => (describe pair.1, describe pair.2)

variable {α : Type} [Scalar α] {Location Other : Type}

/-! ### Binary transitions -/

namespace BinaryTransition

/-- The sum increased by the contraction of the vectors of one pair of parts. -/
def explainParts (transition : BinaryTransition α) (owner : Nat)
    (vectors : Nat → Location → ValueVector α) (sum : ValueVector α)
    (pair : Location × Location) : ValueVector α :=
  sum.add (transition.contract (vectors (transition.leftIndex owner) pair.1)
    (vectors (transition.rightIndex owner) pair.2))

/-- The sum of the contractions over all pairs of parts. -/
def explain (transition : BinaryTransition α) (owner cardinality : Nat)
    (parts : List (Location × Location)) (vectors : Nat → Location → ValueVector α) :
    ValueVector α :=
  parts.foldl (transition.explainParts owner vectors) (ValueVector.zeros cardinality)

theorem explain_map (transition : BinaryTransition α) (owner cardinality : Nat)
    (parts : List (Location × Location)) (describe : Location → Other)
    (vectors : Nat → Other → ValueVector α) :
    transition.explain owner cardinality
        (parts.map fun pair => (describe pair.1, describe pair.2)) vectors =
      transition.explain owner cardinality parts
        (fun child location => vectors child (describe location)) := by
  rw [explain, List.foldl_map]
  rfl

theorem explain_congr (transition : BinaryTransition α) (owner cardinality : Nat)
    {parts : List (Location × Location)} {vectors others : Nat → Location → ValueVector α}
    (same : ∀ pair ∈ parts,
      vectors (transition.leftIndex owner) pair.1 = others (transition.leftIndex owner) pair.1 ∧
      vectors (transition.rightIndex owner) pair.2 = others (transition.rightIndex owner) pair.2) :
    transition.explain owner cardinality parts vectors =
      transition.explain owner cardinality parts others := by
  refine List.foldl_ext _ _ _ fun sum pair member => ?_
  obtain ⟨left, right⟩ := same pair member
  rw [explainParts, explainParts, left, right]

theorem length_explainParts (transition : BinaryTransition α) (owner : Nat)
    (vectors : Nat → Location → ValueVector α) {sum : ValueVector α}
    (fits : sum.length = transition.parentCardinality) (pair : Location × Location) :
    (transition.explainParts owner vectors sum pair).length = transition.parentCardinality := by
  rw [explainParts, ValueVector.length_add, fits, length_contract, Nat.min_self]

theorem length_explain (transition : BinaryTransition α) (owner : Nat)
    (parts : List (Location × Location)) (vectors : Nat → Location → ValueVector α) :
    (transition.explain owner transition.parentCardinality parts vectors).length =
      transition.parentCardinality :=
  ValueVector.length_foldl_zeros fun _ fits pair _ =>
    transition.length_explainParts owner vectors fits pair

end BinaryTransition

/-! ### Cells -/

namespace Cell

/-- The transitions of a cell, each with the probability that it is chosen. -/
def choices (cell : Cell α) : List (Transition α × α) :=
  cell.transitions.zip cell.actions

/-- The vector increased by what one choice contributes. -/
def explainBy (cell : Cell α) (owner : Nat) (analysis : Analysis Location)
    (vectors : Nat → Location → ValueVector α) (values : ValueVector α)
    (choice : Transition α × α) : ValueVector α :=
  if Scalar.isZero choice.2 then
    values
  else
    match choice.1 with
    | .terminal transition =>
      match analysis.observation? with
      | some observation => values.addScaled choice.2 (transition.emission observation)
      | none => values
    | .binary transition =>
      if analysis.parts = [] then
        values
      else
        values.addScaled choice.2
          (transition.explain owner cell.cardinality analysis.parts vectors)

/-- The vector of a cell for a location, from the vectors of the parts of the location. -/
def explain (cell : Cell α) (owner : Nat) (analysis : Analysis Location)
    (vectors : Nat → Location → ValueVector α) : ValueVector α :=
  cell.choices.foldl (cell.explainBy owner analysis vectors) (ValueVector.zeros cell.cardinality)

theorem parentCardinality_of_mem_choices {cell : Cell α} {choice : Transition α × α}
    (member : choice ∈ cell.choices) : choice.1.parentCardinality = cell.cardinality :=
  cell.parents_eq choice.1 (List.of_mem_zip member).1

/-- The vector of a cell does not depend on how locations are described. -/
theorem explain_map (cell : Cell α) (owner : Nat) (analysis : Analysis Location)
    (describe : Location → Other) (vectors : Nat → Other → ValueVector α) :
    cell.explain owner (analysis.map describe) vectors =
      cell.explain owner analysis (fun child location => vectors child (describe location)) := by
  refine List.foldl_ext _ _ _ fun values choice _ => ?_
  rw [explainBy, explainBy]
  split
  · rfl
  · cases choice.1 with
    | terminal transition => rfl
    | binary transition =>
      simp only [Analysis.map, List.map_eq_nil_iff, BinaryTransition.explain_map]

/-- The vector of a cell depends only on the vectors of the parts. -/
theorem explain_congr (cell : Cell α) (owner : Nat) {analysis : Analysis Location}
    {vectors others : Nat → Location → ValueVector α}
    (same : ∀ transition action, (Transition.binary transition, action) ∈ cell.choices →
      Scalar.isZero action = false → ∀ pair ∈ analysis.parts,
      vectors (transition.leftIndex owner) pair.1 = others (transition.leftIndex owner) pair.1 ∧
      vectors (transition.rightIndex owner) pair.2 = others (transition.rightIndex owner) pair.2) :
    cell.explain owner analysis vectors = cell.explain owner analysis others := by
  refine List.foldl_ext _ _ _ fun values choice member => ?_
  obtain ⟨transition, action⟩ := choice
  rw [explainBy, explainBy]
  split
  · rfl
  · rename_i chosen
    cases transition with
    | terminal transition => rfl
    | binary transition =>
      simp only
      rw [transition.explain_congr owner _
        (same transition action member (Bool.eq_false_iff.mpr chosen))]

theorem length_explainBy {cell : Cell α} (owner : Nat) (analysis : Analysis Location)
    (vectors : Nat → Location → ValueVector α) {values : ValueVector α}
    (fits : values.length = cell.cardinality) {choice : Transition α × α}
    (member : choice ∈ cell.choices) :
    (cell.explainBy owner analysis vectors values choice).length = cell.cardinality := by
  obtain ⟨transition, action⟩ := choice
  have parents := parentCardinality_of_mem_choices member
  rw [explainBy]
  split
  · exact fits
  · cases transition with
    | terminal transition =>
      have emitted (observation : Option Nat) :
          (transition.emission observation).length = cell.cardinality :=
        (transition.length_emission observation).trans parents
      cases analysis.observation? with
      | none => exact fits
      | some observation =>
        simp only [ValueVector.length_addScaled, fits, emitted, Nat.min_self]
    | binary transition =>
      have explained : (transition.explain owner cell.cardinality analysis.parts vectors).length =
          cell.cardinality := by
        have parentsHere : transition.parentCardinality = cell.cardinality := parents
        rw [← parentsHere]
        exact transition.length_explain owner analysis.parts vectors
      simp only
      split
      · exact fits
      · rw [ValueVector.length_addScaled, fits, explained, Nat.min_self]

/-- The vector of a cell has one entry for each value of the cell's variable. -/
theorem length_explain (cell : Cell α) (owner : Nat) (analysis : Analysis Location)
    (vectors : Nat → Location → ValueVector α) :
    (cell.explain owner analysis vectors).length = cell.cardinality :=
  ValueVector.length_foldl_zeros fun _ fits _ member =>
    length_explainBy owner analysis vectors fits member

end Cell

end RecursiveBayes
