/-
This file adds and multiplies lists of counts: the number of places of a table is
the product of the sizes of its axes, and what is counted in parts is summed up.
-/

namespace RecursiveBayes.Sizes

/-- The sum of some counts. -/
def total : List Nat → Nat
  | [] => 0
  | count :: rest => count + total rest

/-- The product of some sizes; one if there are none. -/
def product : List Nat → Nat
  | [] => 1
  | size :: rest => size * product rest

theorem total_append (left right : List Nat) :
    total (left ++ right) = total left + total right := by
  induction left with
  | nil => exact (Nat.zero_add _).symm
  | cons count rest inductionHypothesis =>
    rw [List.cons_append, total, total, inductionHypothesis, Nat.add_assoc]

theorem dvd_product {size : Nat} {sizes : List Nat} (member : size ∈ sizes) :
    size ∣ product sizes := by
  induction sizes with
  | nil => cases member
  | cons head rest inductionHypothesis =>
    rcases List.mem_cons.mp member with rfl | later
    · exact Nat.dvd_mul_right _ _
    · exact Nat.dvd_mul_left_of_dvd (inductionHypothesis later) head

end RecursiveBayes.Sizes
