/-
This file holds vectors with one number per value of a variable, and the
arithmetic of the inside pass on them. The entries of a vector lie side by side, so
their sum is the one that belongs to the kind of number. Numbers that lie apart in
memory are added one after the other, from zero and from the first to the last. So
two vectors with the same entries give the same sum whatever the arithmetic of the
numbers is.

Normalizing divides by the total if the total is positive. Otherwise all entries
become zero: a choice without weight is never taken.
-/

import RecursiveBayes.Failure.Abort
import RecursiveBayes.Scalar.Basic

namespace RecursiveBayes

/-- One number per value of a variable. -/
abbrev ValueVector (α : Type) : Type := List α

namespace ValueVector

variable {α : Type} [Scalar α]

/-! ### Sums and products -/

/-- The vector of the given size without any weight. -/
def zeros (size : Nat) : ValueVector α :=
  List.replicate size 0

/-- The vector without any weight for a variable whose number of values is not backed by a table
of weights. It has to fit into memory. -/
def allocate (size : Nat) : Checked (ValueVector α) := do
  Memory.reserve size Memory.numberSize
  return zeros size

/-- The sum of the entries. -/
def total (vector : ValueVector α) : α :=
  Scalar.sum vector

/-- The entries added one after the other. -/
def runningTotal (vector : ValueVector α) : α :=
  vector.foldl (fun sum entry => sum + entry) 0

/-- The sum of the products of entries at the same place. -/
def dot (left right : ValueVector α) : α :=
  total (List.zipWith (fun entry other => entry * other) left right)

/-- A sum increased, for every entry of a vector from the given place on, by the entry times a
weight of its place. -/
def addWeighted (weight : Nat → α) : ValueVector α → Nat → α → α
  | [], _, sum => sum
  | entry :: rest, place, sum => addWeighted weight rest (place + 1) (sum + entry * weight place)

/-- The sum, over the places of a vector, of the entry times a weight of the place, where the
weights lie the given distance apart in memory. -/
def weightedTotal (vector : ValueVector α) (distance : Nat) (weight : Nat → α) : α :=
  if distance = 1 then
    vector.dot ((List.range vector.length).map weight)
  else
    addWeighted weight vector 0 0

/-- The sum of the values of a function at the first `count` places. -/
def totalBelow (count : Nat) (entry : Nat → α) : α :=
  Nat.fold count (fun place _ sum => sum + entry place) 0

theorem totalBelow_succ (count : Nat) (entry : Nat → α) :
    totalBelow (count + 1) entry = totalBelow count entry + entry count := rfl

/-- The sum of two vectors, entry by entry. -/
def add (left right : ValueVector α) : ValueVector α :=
  List.zipWith (fun entry other => entry + other) left right

/-- A vector increased by a multiple of another. -/
def addScaled (vector : ValueVector α) (scale : α) (other : ValueVector α) : ValueVector α :=
  List.zipWith (fun entry addend => entry + scale * addend) vector other

theorem length_zeros (size : Nat) : (zeros size : ValueVector α).length = size :=
  List.length_replicate

theorem length_add (left right : ValueVector α) :
    (add left right).length = min left.length right.length :=
  List.length_zipWith

theorem length_addScaled (vector : ValueVector α) (scale : α) (other : ValueVector α) :
    (addScaled vector scale other).length = min vector.length other.length :=
  List.length_zipWith

/-! ### Weights and probabilities -/

/-- The first entry that is no weight. -/
def firstInvalid? (vector : ValueVector α) : Option α :=
  vector.find? fun entry => !Scalar.isWeight entry

/-- The share that an entry has in a total; nothing has a share in a total that is not
positive. -/
def share (total entry : α) : α :=
  if Scalar.isPositive total then entry / total else 0

/-- The shares of the entries in their own total. -/
def normalized (vector : ValueVector α) : ValueVector α :=
  let sum := vector.total
  vector.map (share sum)

theorem length_normalized (vector : ValueVector α) :
    vector.normalized.length = vector.length :=
  List.length_map _

end ValueVector

end RecursiveBayes
