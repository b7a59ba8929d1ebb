/-
This file sums over finite sets of trees. A tree tells how it was put together: where
its yield splits and what stands at the roots of its two parts. So no tree is built
twice, and where the weight of a tree is a factor of its root times the weights of
its parts, the sum over all trees factors at the root: the two parts are chosen
independently.
-/

import RecursiveBayes.Scalar.Rational

namespace RecursiveBayes

namespace Trees

/-! ### Splits -/

/-- The parts of a list at an inner split point are shorter than the list. -/
theorem length_parts_lt {Item : Type} {items : List Item} {point : Nat}
    (inside : point ∈ Finset.Ico 1 items.length) :
    (items.take point).length < items.length ∧ (items.drop point).length < items.length := by
  obtain ⟨after, before⟩ := Finset.mem_Ico.mp inside
  rw [List.length_take, List.length_drop]
  omega

/-! ### Sums -/

/-- A family of finite sets, where each member tells which set it is from, is summed set by
set. -/
theorem sum_biUnion_of_label {Place Label Member : Type} [DecidableEq Member]
    {places : Finset Place} {members : Place → Finset Member} {label : Place → Label}
    (injective : Function.Injective label) (labelOf : Member → Label)
    (tells : ∀ place ∈ places, ∀ member ∈ members place, labelOf member = label place)
    (term : Member → ℚ) :
    ∑ member ∈ places.biUnion members, term member =
      ∑ place ∈ places, ∑ member ∈ members place, term member := by
  refine Finset.sum_biUnion fun place placeMember other otherMember different => ?_
  refine Finset.disjoint_left.mpr fun member here there => different (injective ?_)
  rw [← tells place placeMember member here, tells other otherMember member there]

/-- All trees that join a left and a right part in one of some ways. -/
def joined {Split Tree : Type} [DecidableEq Tree] (splits : Finset Split)
    (left right : Split → Finset Tree) (join : Split → Tree → Tree → Tree) : Finset Tree :=
  splits.biUnion fun split =>
    (left split ×ˢ right split).image fun parts => join split parts.1 parts.2

theorem mem_joined {Split Tree : Type} [DecidableEq Tree] {splits : Finset Split}
    {left right : Split → Finset Tree} {join : Split → Tree → Tree → Tree} {tree : Tree} :
    tree ∈ joined splits left right join ↔
      ∃ split ∈ splits, ∃ leftPart ∈ left split, ∃ rightPart ∈ right split,
        join split leftPart rightPart = tree := by
  simp only [joined, Finset.mem_biUnion, Finset.mem_image, Finset.mem_product, Prod.exists]
  constructor
  · rintro ⟨split, member, leftPart, rightPart, ⟨leftMember, rightMember⟩, same⟩
    exact ⟨split, member, leftPart, leftMember, rightPart, rightMember, same⟩
  · rintro ⟨split, member, leftPart, leftMember, rightPart, rightMember, same⟩
    exact ⟨split, member, leftPart, rightPart, ⟨leftMember, rightMember⟩, same⟩

/-- The sum over joined trees factors at the root. -/
theorem sum_joined {Split Tree : Type} [DecidableEq Tree] {splits : Finset Split}
    {left right : Split → Finset Tree} {join : Split → Tree → Tree → Tree}
    (injective : ∀ split, Function.Injective2 (join split)) (splitOf : Tree → Split)
    (tells : ∀ split ∈ splits, ∀ leftPart ∈ left split, ∀ rightPart ∈ right split,
      splitOf (join split leftPart rightPart) = split)
    {weight : Tree → ℚ} {factor : Split → ℚ} {leftWeight rightWeight : Split → Tree → ℚ}
    (factors : ∀ split ∈ splits, ∀ leftPart ∈ left split, ∀ rightPart ∈ right split,
      weight (join split leftPart rightPart) =
        factor split * (leftWeight split leftPart * rightWeight split rightPart)) :
    ∑ tree ∈ joined splits left right join, weight tree =
      ∑ split ∈ splits, factor split * ((∑ leftPart ∈ left split, leftWeight split leftPart) *
        ∑ rightPart ∈ right split, rightWeight split rightPart) := by
  rw [joined, sum_biUnion_of_label Function.injective_id splitOf]
  · refine Finset.sum_congr rfl fun split member => ?_
    rw [Finset.sum_image fun parts _ others _ same => Prod.ext_iff.mpr (injective split same),
      Finset.sum_mul_sum, ← Finset.sum_product', Finset.mul_sum]
    refine Finset.sum_congr rfl fun parts both => ?_
    obtain ⟨leftMember, rightMember⟩ := Finset.mem_product.mp both
    exact factors split member parts.1 leftMember parts.2 rightMember
  · intro split member tree treeMember
    obtain ⟨⟨leftPart, rightPart⟩, both, rfl⟩ := Finset.mem_image.mp treeMember
    obtain ⟨leftMember, rightMember⟩ := Finset.mem_product.mp both
    exact tells split member leftPart leftMember rightPart rightMember

end Trees

end RecursiveBayes
