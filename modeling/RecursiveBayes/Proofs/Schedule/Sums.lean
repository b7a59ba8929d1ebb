/-
This file adds up over the spans of a sequence. What depends on the length of a span
alone is added up length by length, because a sequence has as many spans of a length as
places for them. In this way the number of spans, and the number of their split points,
are found in closed form.

A schedule asks for each variable at each span once, in items that hold all spans of one
length. So whatever is counted for the spans of its items amounts, for each variable, to
the sum over the spans of the sequence.
-/

import RecursiveBayes.Proofs.Schedule.Enumeration
import RecursiveBayes.Proofs.Weights.Rational

namespace RecursiveBayes

/-! ### Counts in a list -/

namespace Sizes

theorem total_map_range (count : Nat) (measure : Nat → Nat) :
    total ((List.range count).map measure) = ∑ place ∈ Finset.range count, measure place := by
  induction count with
  | zero => rfl
  | succ count inductionHypothesis =>
    rw [List.range_succ, List.map_append, total_append, inductionHypothesis, Finset.sum_range_succ]
    rfl

theorem total_map_one {Item : Type} (items : List Item) :
    total (items.map fun _ => 1) = items.length := by
  induction items with
  | nil => rfl
  | cons item rest inductionHypothesis =>
    rw [List.map_cons, total, inductionHypothesis, List.length_cons, Nat.add_comm]

/-! ### Sums over lengths -/

/-- The numbers down from a length to one. -/
theorem two_mul_sum_sub (length : Nat) :
    2 * ∑ size ∈ Finset.range length, (length - size) = length * (length + 1) := by
  induction length with
  | zero => rfl
  | succ length inductionHypothesis =>
    rw [Finset.sum_range_succ']
    simp only [Nat.add_sub_add_right, Nat.sub_zero]
    rw [Nat.mul_add, inductionHypothesis]
    ring

/-- The same numbers, each one as often as there are numbers above it. -/
theorem six_mul_sum_sub_mul (length : Nat) :
    6 * ∑ size ∈ Finset.range length, (length - size) * size =
      (length - 1) * length * (length + 1) := by
  induction length with
  | zero => rfl
  | succ length inductionHypothesis =>
    -- A longer sequence has one place more for each of the shorter spans.
    have shifted : ∑ size ∈ Finset.range (length + 1), (length + 1 - size) * size =
        ∑ size ∈ Finset.range length, (length - size) * size +
          ∑ size ∈ Finset.range length, (length - size) := by
      rw [Finset.sum_range_succ', ← Finset.sum_add_distrib]
      simp only [Nat.add_sub_add_right, Nat.mul_zero, Nat.add_zero, Nat.mul_succ]
    have numbers := two_mul_sum_sub length
    rw [shifted, Nat.mul_add, inductionHypothesis, Nat.add_sub_cancel]
    cases length with
    | zero => rfl
    | succ shorter =>
      rw [Nat.add_sub_cancel]
      linear_combination 3 * numbers

end Sizes

/-! ### The spans of a sequence -/

namespace Span

/-- The spans of a sequence, from each start. -/
def allWithin (length : Nat) : Finset Span :=
  (Finset.range length).biUnion fun start => (Finset.Ioc start length).image (Span.mk start)

theorem mem_allWithin {length : Nat} {span : Span} :
    span ∈ allWithin length ↔ span.Within length := by
  simp only [allWithin, Finset.mem_biUnion, Finset.mem_range, Finset.mem_image, Finset.mem_Ioc]
  constructor
  · rintro ⟨start, _, stop, inside, rfl⟩
    exact inside
  · rintro ⟨proper, inside⟩
    exact ⟨span.start, Nat.lt_of_lt_of_le proper inside, span.stop, ⟨proper, inside⟩, rfl⟩

/-- There are as many spans of a length as a schedule lists. -/
theorem card_of_size (length size : Nat) :
    {span ∈ allWithin length | span.stop - span.start = size}.card =
      SpanSchedule.spanCount length size := by
  have listed : {span ∈ allWithin length | span.stop - span.start = size} =
      (SpanSchedule.spansOfLength length size).toFinset := by
    ext span
    rw [Finset.mem_filter, List.mem_toFinset, SpanSchedule.mem_spansOfLength, mem_allWithin]
  have distinct : (SpanSchedule.spansOfLength length size).Nodup :=
    List.Nodup.map (fun start other same => congrArg Span.start same) List.nodup_range
  rw [listed, List.toFinset_card_of_nodup distinct, SpanSchedule.spansOfLength, List.length_map,
    List.length_range]

/-- What depends on the length of a span alone is added up length by length. -/
theorem sum_allWithin (length : Nat) (measure : Nat → Nat) :
    ∑ span ∈ allWithin length, measure (span.stop - span.start) =
      ∑ size ∈ Finset.range length, (length - size) * measure (size + 1) := by
  have short : ∀ span ∈ allWithin length, span.stop - span.start ∈ Finset.range (length + 1) := by
    intro span member
    obtain ⟨_, inside⟩ := mem_allWithin.mp member
    exact Finset.mem_range.mpr (Nat.lt_succ_of_le (Nat.le_trans (Nat.sub_le _ _) inside))
  have ofSize : ∀ size, ∑ span ∈ allWithin length with span.stop - span.start = size,
      measure (span.stop - span.start) = SpanSchedule.spanCount length size * measure size := by
    intro size
    rw [Finset.sum_congr rfl fun span member => congrArg measure (Finset.mem_filter.mp member).2,
      Finset.sum_const, card_of_size, smul_eq_mul]
  rw [← Finset.sum_fiberwise_of_maps_to short, Finset.sum_congr rfl fun size _ => ofSize size,
    Finset.sum_range_succ']
  -- No span has length zero.
  simp only [SpanSchedule.spanCount, if_pos, Nat.zero_mul, Nat.add_zero, Nat.succ_ne_zero,
    if_false, Nat.add_sub_add_right]

theorem two_mul_card_allWithin (length : Nat) :
    2 * (allWithin length).card = length * (length + 1) := by
  have counted := sum_allWithin length fun _ => 1
  rw [← Finset.card_eq_sum_ones] at counted
  rw [counted, Finset.sum_congr rfl fun size _ => Nat.mul_one _, Sizes.two_mul_sum_sub]

theorem six_mul_sum_splitCount (length : Nat) :
    6 * ∑ span ∈ allWithin length, span.splitCount = (length - 1) * length * (length + 1) := by
  have points : ∀ span ∈ allWithin length, span.splitCount = span.stop - span.start - 1 :=
    fun span _ => Nat.sub_add_eq _ _ _
  rw [Finset.sum_congr rfl points, sum_allWithin length fun size => size - 1]
  exact Sizes.six_mul_sum_sub_mul length

end Span

/-! ### Schedules -/

namespace SpanSchedule

theorem total_spansOfLength (length size : Nat) (measure : Nat → Nat) :
    Sizes.total ((spansOfLength length (size + 1)).map fun span =>
      measure (span.stop - span.start)) = (length - size) * measure (size + 1) := by
  rw [spansOfLength, List.map_map, Sizes.total_map_range]
  simp only [Function.comp_apply, Nat.add_sub_cancel_left]
  rw [Finset.sum_const, Finset.card_range, smul_eq_mul, spanCount, if_neg (Nat.succ_ne_zero size),
    Nat.add_sub_add_right]

/-- What the items of a schedule add up to for their spans is, for each variable, the sum over the
spans of the sequence. -/
theorem total_items (length count : Nat) (measure : Nat → Nat) :
    Sizes.total (((List.range (length * count)).map (itemAt length count)).map fun item =>
        Sizes.total (item.locations.map fun span => measure (span.stop - span.start))) =
      count * ∑ span ∈ Span.allWithin length, measure (span.stop - span.start) := by
  rw [List.map_map, Sizes.total_map_range, ValueVector.sum_range_mul, Span.sum_allWithin,
    Finset.mul_sum]
  refine Finset.sum_congr rfl fun size _ => ?_
  -- All items for one length, one for each variable, hold the same spans.
  have each : ∀ index ∈ Finset.range count,
      Sizes.total ((itemAt length count (size * count + index)).locations.map fun span =>
        measure (span.stop - span.start)) = (length - size) * measure (size + 1) := by
    intro index member
    have round : (size * count + index) / count = size :=
      ((turn_eq_iff (Finset.mem_range.mp member)).mp rfl).2
    rw [itemAt, round, total_spansOfLength]
  exact (Finset.sum_congr rfl each).trans (by rw [Finset.sum_const, Finset.card_range, smul_eq_mul])

end SpanSchedule

end RecursiveBayes
