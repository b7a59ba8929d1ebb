/-
This file enumerates a schedule. Its items are numbered from zero: with `count`
variables, item number `turn` asks for variable `turn % count` at all spans of
length `turn / count + 1`. So the vector of a variable at a span is asked for
exactly once, and after those of all shorter spans.
-/

import RecursiveBayes.Proofs.Protocol.Running
import RecursiveBayes.Schedule

namespace RecursiveBayes

/-- Some item asks for the vector of the variable at the span. -/
def Asked (items : List (WorkItem Span)) (index : Nat) (span : Span) : Prop :=
  ∃ item ∈ items, index = item.variableIndex ∧ span ∈ item.locations

theorem asked_nil (index : Nat) (span : Span) : ¬ Asked [] index span := by
  rintro ⟨item, member, _⟩
  exact absurd member List.not_mem_nil

theorem asked_cons {item : WorkItem Span} {rest : List (WorkItem Span)} {index : Nat}
    {span : Span} :
    Asked (item :: rest) index span ↔
      (index = item.variableIndex ∧ span ∈ item.locations) ∨ Asked rest index span := by
  simp only [Asked, List.mem_cons, exists_eq_or_imp]

/-- A span splits at each of its split points, as long as its positions are words. -/
theorem Span.splits_eq_ok {span : Span} (word : span.start + 1 < Word.limit) :
    span.splits = .ok (span.splitPoints.map span.splitAt) := by
  rw [splits, Word.add_eq_ok word]
  rfl

namespace SpanSchedule

variable {length count : Nat}

/-! ### Spans of one length -/

theorem spanCount_le (length size : Nat) : spanCount length size ≤ length := by
  rw [spanCount]
  split
  · exact Nat.zero_le _
  · omega

theorem mem_spansOfLength {size : Nat} {span : Span} :
    span ∈ spansOfLength length size ↔ span.Within length ∧ span.stop - span.start = size := by
  simp only [spansOfLength, spanCount, List.mem_map, List.mem_range, Span.Within]
  constructor
  · rintro ⟨start, startLt, rfl⟩
    split at startLt
    · exact absurd startLt (Nat.not_lt_zero _)
    · exact ⟨⟨Nat.lt_add_of_pos_right (by omega), Nat.add_le_of_le_sub (by omega) (by omega)⟩,
        Nat.add_sub_cancel_left _ _⟩
  · rintro ⟨⟨proper, inside⟩, rfl⟩
    refine ⟨span.start, ?_, ?_⟩
    · rw [if_neg (Nat.sub_ne_zero_of_lt proper)]
      omega
    · rw [Nat.add_sub_cancel' (Nat.le_of_lt proper)]

/-! ### Turns -/

/-- The position of a schedule before the item with the given number. -/
def position (length count turn : Nat) : SpanSchedule :=
  ⟨length, count, turn / count + 1, turn % count⟩

/-- The item with the given number. -/
def itemAt (length count turn : Nat) : WorkItem Span :=
  ⟨turn % count, spansOfLength length (turn / count + 1)⟩

theorem position_zero (length count : Nat) : position length count 0 = start length count := by
  rw [position, Nat.zero_div, Nat.zero_mod]
  rfl

/-- After the last variable of a length comes the first variable of the next one. -/
theorem position_succ_of_last {turn : Nat} (last : turn % count + 1 = count) :
    position length count (turn + 1) = ⟨length, count, turn / count + 1 + 1, 0⟩ := by
  have positive : 0 < count := last ▸ Nat.succ_pos _
  have next : turn + 1 = count * (turn / count + 1) := by
    have whole := Nat.div_add_mod turn count
    rw [Nat.mul_succ]
    omega
  rw [position, next, Nat.mul_div_cancel_left _ positive, Nat.mul_mod_right]

/-- Until then the length stays, and the next variable follows. -/
theorem position_succ_of_not_last {turn : Nat} (positive : 0 < count)
    (notLast : turn % count + 1 ≠ count) :
    position length count (turn + 1) = ⟨length, count, turn / count + 1, turn % count + 1⟩ := by
  have bound := Nat.mod_lt turn positive
  have inside : turn % count + 1 < count := by omega
  have next : turn + 1 = turn % count + 1 + count * (turn / count) := by
    have whole := Nat.mod_add_div turn count
    omega
  rw [position, next, Nat.add_mul_div_left _ _ positive, Nat.add_mul_mod_self_left,
    Nat.div_eq_of_lt inside, Nat.mod_eq_of_lt inside, Nat.zero_add]

/-- The number of the item that asks for a variable at spans of a given length determines
both. -/
theorem turn_eq_iff {turn size index : Nat} (indexLt : index < count) :
    turn = size * count + index ↔ turn % count = index ∧ turn / count = size := by
  constructor
  · rintro rfl
    rw [Nat.add_comm, Nat.add_mul_mod_self_right, Nat.mod_eq_of_lt indexLt,
      Nat.add_mul_div_right _ _ (Nat.zero_lt_of_lt indexLt), Nat.div_eq_of_lt indexLt,
      Nat.zero_add]
    exact ⟨rfl, rfl⟩
  · rintro ⟨rfl, rfl⟩
    exact (Nat.div_add_mod' turn count).symm

/-! ### The list of items -/

/-- A schedule goes from each item to the next one, as long as the spans of the items fit into
memory and lengths are words. -/
theorem next?_position (word : length + 1 < Word.limit)
    (memory : Memory.spanSize * length ≤ Memory.largestObject) {turn : Nat}
    (turnLt : turn < length * count) :
    (position length count turn).next? =
      .ok (some (itemAt length count turn, position length count (turn + 1))) := by
  have positive : 0 < count := Nat.pos_of_mul_pos_left (Nat.zero_lt_of_lt turnLt)
  have lengthLt : turn / count < length := Nat.div_lt_of_lt_mul (Nat.mul_comm length count ▸ turnLt)
  have unfinished : (position length count turn).isFinished = false := by
    exact Bool.or_eq_false_iff.mpr
      ⟨decide_eq_false (Nat.ne_of_gt positive), decide_eq_false (Nat.not_lt.mpr lengthLt)⟩
  have listed : listSpans length (turn / count + 1) =
      .ok (spansOfLength length (turn / count + 1)) := by
    rw [listSpans, Memory.reserve_eq_ok]
    · rfl
    · exact Nat.le_trans (Nat.mul_le_mul_left _ (spanCount_le _ _)) memory
  have advanced : (position length count turn).advance =
      .ok (position length count (turn + 1)) := by
    have fits : turn / count + 1 + 1 < Word.limit :=
      Nat.lt_of_le_of_lt (Nat.succ_le_succ lengthLt) word
    rw [advance]
    show (if turn % count + 1 = count then Word.add (turn / count + 1) 1 >>= _ else _) = _
    by_cases last : turn % count + 1 = count
    · rw [if_pos last, Word.add_eq_ok fits, position_succ_of_last last]
      rfl
    · rw [if_neg last, position_succ_of_not_last positive last]
      rfl
  rw [next?, unfinished, if_neg Bool.false_ne_true, advanced]
  simp only [position, listed]
  rfl

theorem take_position (word : length + 1 < Word.limit)
    (memory : Memory.spanSize * length ≤ Memory.largestObject) {number turn : Nat}
    (inside : turn + number ≤ length * count) :
    (position length count turn).take number =
      .ok ((List.range' turn number).map (itemAt length count),
        position length count (turn + number)) := by
  induction number generalizing turn with
  | zero => rfl
  | succ number inductionHypothesis =>
    rw [take, next?_position word memory (by omega), ok_bind]
    simp only
    rw [inductionHypothesis (by omega), ok_bind, Nat.add_right_comm]
    rfl

/-- The items of a schedule are those with the numbers below the length of the sequence times the
number of variables. -/
theorem items_start (room : 0 < count →
      length + 1 < Word.limit ∧ Memory.spanSize * length ≤ Memory.largestObject) :
    (start length count).items =
      .ok ((List.range (length * count)).map (itemAt length count)) := by
  rcases Nat.eq_zero_or_pos count with rfl | positive
  · rfl
  · obtain ⟨word, memory⟩ := room positive
    have inside : 0 + length * count ≤ length * count := Nat.le_of_eq (Nat.zero_add _)
    have taken := take_position word memory inside
    rw [items, ← position_zero length count]
    show (take (length * count) (position length count 0) >>= _) = _
    rw [taken, List.range_eq_range']
    rfl

/-- The first items ask for a vector exactly if its item is one of them. -/
theorem asked_range_iff {turns : Nat} (inside : turns ≤ length * count) {index : Nat}
    {span : Span} :
    Asked ((List.range turns).map (itemAt length count)) index span ↔
      index < count ∧ span.Within length ∧
        (span.stop - span.start - 1) * count + index < turns := by
  simp only [Asked, List.mem_map, List.mem_range]
  constructor
  · rintro ⟨item, ⟨turn, turnLt, rfl⟩, rfl, member⟩
    obtain ⟨within, size⟩ := mem_spansOfLength.mp member
    have positive : 0 < count :=
      Nat.pos_of_mul_pos_left (Nat.lt_of_lt_of_le (Nat.zero_lt_of_lt turnLt) inside)
    refine ⟨Nat.mod_lt turn positive, within, ?_⟩
    have same : turn = turn / count * count + turn % count :=
      (turn_eq_iff (Nat.mod_lt turn positive)).mpr ⟨rfl, rfl⟩
    rw [size, Nat.add_sub_cancel]
    show turn / count * count + turn % count < turns
    rwa [← same]
  · rintro ⟨indexLt, within, turnLt⟩
    obtain ⟨variableIs, sizeIs⟩ := (turn_eq_iff indexLt).mp rfl
    refine ⟨_, ⟨_, turnLt, rfl⟩, variableIs.symm, mem_spansOfLength.mpr ⟨within, ?_⟩⟩
    rw [sizeIs]
    exact (Nat.sub_add_cancel (Nat.sub_pos_of_lt within.1)).symm

/-- The items before one with spans of a given length ask for the vectors of all variables at all
shorter spans. -/
theorem asked_of_shorter {turn : Nat} (inside : turn ≤ length * count) {index : Nat}
    (indexLt : index < count) {part : Span} (within : part.Within length)
    (shorter : part.stop - part.start ≤ turn / count) :
    Asked ((List.range turn).map (itemAt length count)) index part := by
  have proper := Nat.sub_pos_of_lt within.1
  refine (asked_range_iff inside).mpr ⟨indexLt, within, ?_⟩
  exact Nat.lt_of_lt_of_le (Tensor.place_lt (by omega) indexLt) (Nat.div_mul_le_self _ _)

/-- All items together ask for the vectors of all variables at all spans of the sequence. -/
theorem asked_all_iff {index : Nat} {span : Span} :
    Asked ((List.range (length * count)).map (itemAt length count)) index span ↔
      index < count ∧ span.Within length := by
  rw [asked_range_iff (Nat.le_refl _)]
  refine ⟨fun asked => ⟨asked.1, asked.2.1⟩, fun valid => ⟨valid.1, valid.2, ?_⟩⟩
  obtain ⟨indexLt, proper, inside⟩ := valid
  exact Tensor.place_lt (by omega) indexLt

end SpanSchedule

end RecursiveBayes
