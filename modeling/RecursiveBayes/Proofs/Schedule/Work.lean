/-
This file says what a schedule does, call by call. Taking its items one after the other
gives every variable at every span of the sequence exactly once, after all variables at
the two parts of the span for each of its splits, and then nothing any more. At every
moment the schedule knows how many items are left.

An item holds all spans of one length, and there are most of them for length one. So the
first item decides whether the items fit into memory; if it does not, there is no item.
-/

import Mathlib.Logic.ExistsUnique
import RecursiveBayes.Proofs.Schedule.Enumeration

namespace RecursiveBayes

namespace SpanSchedule

variable {length count : Nat}

/-! ### What is left -/

/-- A schedule is finished when all its items were taken. -/
theorem isFinished_position (turn : Nat) :
    (position length count turn).isFinished = decide (length * count ≤ turn) := by
  rw [isFinished, position]
  rcases Nat.eq_zero_or_pos count with rfl | positive
  · simp
  · rw [Bool.eq_iff_iff, Bool.or_eq_true, decide_eq_true_iff, decide_eq_true_iff,
      decide_eq_true_iff, or_iff_right (Nat.ne_of_gt positive), Nat.lt_succ_iff,
      Nat.le_div_iff_mul_le positive]

/-- There is no next item exactly if the schedule is finished. -/
theorem next?_position_eq_none_iff (word : length + 1 < Word.limit)
    (room : 0 < length * count → Memory.spanSize * length ≤ Memory.largestObject) {turn : Nat} :
    (position length count turn).next? = .ok none ↔ length * count ≤ turn := by
  by_cases finished : length * count ≤ turn
  · rw [next?, isFinished_position, if_pos (decide_eq_true finished)]
    exact ⟨fun _ => finished, fun _ => rfl⟩
  · have turnLt := Nat.not_le.mp finished
    rw [next?_position word (room (Nat.zero_lt_of_lt turnLt)) turnLt]
    exact ⟨fun same => (by cases same), fun absurdly => absurd absurdly finished⟩

theorem remaining_position (word : length + 1 < Word.limit) (total : length * count < Word.limit)
    (turn : Nat) : (position length count turn).remaining = .ok (length * count - turn) := by
  rw [remaining, isFinished_position]
  by_cases finished : length * count ≤ turn
  · rw [if_pos (decide_eq_true finished), Nat.sub_eq_zero_of_le finished]
    rfl
  · have turnLt := Nat.not_le.mp finished
    have positive : 0 < count := Nat.pos_of_mul_pos_left (Nat.zero_lt_of_lt turnLt)
    have lengthLt : turn / count < length :=
      Nat.div_lt_of_lt_mul (Nat.mul_comm length count ▸ turnLt)
    have whole := Nat.div_add_mod' turn count
    rw [if_neg (Bool.eq_false_iff.mp (decide_eq_false finished))]
    simp only [position]
    generalize turn / count = rounds at lengthLt whole
    have lengths : length - (rounds + 1) + 1 = length - rounds := by omega
    have items : (length - rounds) * count = length * count - rounds * count :=
      Nat.sub_mul _ _ _
    rw [Word.add_eq_ok (by omega), ok_bind, lengths, Word.mul_eq_ok (by omega), ok_bind,
      Word.sub_eq_ok (by omega), items]
    congr 1
    omega

/-! ### Any number of calls -/

/-- The items that are taken by some calls, and the position after them. Calls after the last item
take nothing. -/
theorem take_position_any (word : length + 1 < Word.limit)
    (room : 0 < length * count → Memory.spanSize * length ≤ Memory.largestObject)
    (calls turn : Nat) (inside : turn ≤ length * count) :
    (position length count turn).take calls =
      .ok (((List.range' turn (length * count - turn)).map (itemAt length count)).take calls,
        position length count (min (turn + calls) (length * count))) := by
  induction calls generalizing turn with
  | zero => rw [take, List.take_zero, Nat.add_zero, Nat.min_eq_left inside]; rfl
  | succ calls inductionHypothesis =>
    rw [take]
    by_cases finished : length * count ≤ turn
    · rw [(next?_position_eq_none_iff word room).mpr finished, ok_bind,
        Nat.sub_eq_zero_of_le finished, Nat.min_eq_right (by omega),
        Nat.le_antisymm inside finished]
      rfl
    · have turnLt := Nat.not_le.mp finished
      obtain ⟨others, left⟩ : ∃ others, length * count - turn = others + 1 :=
        ⟨length * count - (turn + 1), by omega⟩
      rw [next?_position word (room (Nat.zero_lt_of_lt turnLt)) turnLt, ok_bind]
      simp only
      rw [inductionHypothesis (turn + 1) turnLt, ok_bind, left, List.range'_succ, List.map_cons,
        List.take_succ_cons, Nat.add_right_comm]
      rw [show length * count - (turn + 1) = others by omega]
      rfl

/-- The first item holds a span for every position, so it is the largest. -/
theorem next?_start_of_no_room (some_item : 0 < length * count)
    (large : Memory.largestObject < Memory.spanSize * length) :
    (start length count).next? = .error .allocation := by
  have unfinished : (start length count).isFinished = false := by
    rw [← position_zero, isFinished_position]
    exact decide_eq_false (Nat.not_le.mpr some_item)
  have spans : listSpans length 1 = .error .allocation := by
    rw [listSpans, Memory.reserve, spanCount, if_neg Nat.one_ne_zero, Nat.add_sub_cancel,
      if_neg (Nat.not_le.mpr large)]
    rfl
  rw [next?, unfinished, if_neg Bool.false_ne_true]
  simp only [start, spans]
  rfl

/-! ### Each vector once, after its parts -/

/-- The items of a schedule, by their numbers. -/
def work (length count : Nat) : List (WorkItem Span) :=
  (List.range (length * count)).map (itemAt length count)

theorem getElem?_work_iff {turn : Nat} {item : WorkItem Span} :
    (work length count)[turn]? = some item ↔
      turn < length * count ∧ item = itemAt length count turn := by
  rw [work, List.getElem?_map, Option.map_eq_some_iff]
  constructor
  · rintro ⟨number, found, rfl⟩
    obtain ⟨inside, rfl⟩ := List.getElem?_eq_some_iff.mp found
    rw [List.length_range] at inside
    rw [List.getElem_range]
    exact ⟨inside, rfl⟩
  · rintro ⟨inside, rfl⟩
    exact ⟨turn, List.getElem?_range inside, rfl⟩

theorem take_work {turn : Nat} (inside : turn ≤ length * count) :
    (work length count).take turn = (List.range turn).map (itemAt length count) := by
  rw [work, ← List.map_take, List.take_range, Nat.min_eq_left inside]

/-- The item for a variable at the spans of one length. -/
theorem getElem?_work_of_size {size index : Nat} (sizePos : 0 < size) (sizeLe : size ≤ length)
    (indexLt : index < count) :
    (work length count)[(size - 1) * count + index]? =
      some ⟨index, spansOfLength length size⟩ := by
  obtain ⟨variableIs, roundIs⟩ : ((size - 1) * count + index) % count = index ∧
      ((size - 1) * count + index) / count = size - 1 := (turn_eq_iff indexLt).mp rfl
  refine getElem?_work_iff.mpr ⟨Tensor.place_lt (by omega) indexLt, ?_⟩
  rw [itemAt, variableIs, roundIs, Nat.sub_add_cancel sizePos]

/-- The vector of a variable at a span is asked for by exactly one item. -/
theorem existsUnique_work {index : Nat} {span : Span} (indexLt : index < count)
    (within : span.Within length) :
    ∃! turn : Nat, ∃ item : WorkItem Span, (work length count)[turn]? = some item ∧
      item.variableIndex = index ∧ span ∈ item.locations := by
  have proper := Nat.sub_pos_of_lt within.1
  have sizeLe : span.stop - span.start ≤ length := Nat.le_trans (Nat.sub_le _ _) within.2
  refine ⟨(span.stop - span.start - 1) * count + index, ?_, ?_⟩
  · exact ⟨_, getElem?_work_of_size proper sizeLe indexLt, rfl,
      mem_spansOfLength.mpr ⟨within, rfl⟩⟩
  · rintro turn ⟨item, found, rfl, member⟩
    obtain ⟨_, rfl⟩ := getElem?_work_iff.mp found
    obtain ⟨_, size⟩ := mem_spansOfLength.mp member
    refine (turn_eq_iff indexLt).mpr ⟨rfl, ?_⟩
    rw [size, Nat.add_sub_cancel]

/-- The parts of the spans of an item were asked for, for every variable, by the items before
it. -/
theorem asked_of_splits {turn : Nat} {item : WorkItem Span} (word : length + 1 < Word.limit)
    (found : (work length count)[turn]? = some item) {span : Span}
    (member : span ∈ item.locations) :
    ∃ parts, span.splits = .ok parts ∧ ∀ pair ∈ parts, ∀ other, other < count →
      Asked ((work length count).take turn) other pair.1 ∧
        Asked ((work length count).take turn) other pair.2 := by
  obtain ⟨turnLt, rfl⟩ := getElem?_work_iff.mp found
  obtain ⟨⟨proper, inside⟩, size⟩ := mem_spansOfLength.mp member
  have next : span.start + 1 < Word.limit := by omega
  refine ⟨_, Span.splits_eq_ok next, fun pair pairMember other otherLt => ?_⟩
  obtain ⟨point, pointMember, rfl⟩ := List.mem_map.mp pairMember
  obtain ⟨after, before⟩ := Span.mem_splitPoints.mp pointMember
  have earlier {part : Span} (partWithin : part.Within length)
      (shorter : part.stop - part.start < span.stop - span.start) :
      Asked ((List.range turn).map (itemAt length count)) other part :=
    asked_of_shorter (Nat.le_of_lt turnLt) otherLt partWithin
      (Nat.le_of_lt_succ (Nat.lt_of_lt_of_eq shorter size))
  rw [take_work (Nat.le_of_lt turnLt)]
  constructor
  · exact earlier ⟨after, Nat.le_of_lt (Nat.lt_of_lt_of_le before inside)⟩
      (Nat.sub_lt_sub_right (Nat.le_of_lt after) before)
  · exact earlier ⟨before, inside⟩ (Nat.sub_lt_sub_left (Nat.lt_trans after before) after)

/-! ### Whole schedules -/

/-- Calling a schedule takes its items one after the other, and then nothing any more. There is one
item for each length and each variable, in this order, with all spans of the length by their
start. So each variable is asked for at each span by exactly one item, and for all parts of the
span by the items before it. At every moment the schedule knows how many items are left. All of
this needs room for the spans of the first item; where there is none, the first call aborts. -/
theorem calls_take_work_in_order (length count : Nat) (word : length + 1 < Word.limit)
    (total : length * count < Word.limit) :
    (start length count).remaining = .ok (length * count) ∧
    (0 < length * count → Memory.largestObject < Memory.spanSize * length →
      (start length count).next? = .error .allocation) ∧
    ((0 < length * count → Memory.spanSize * length ≤ Memory.largestObject) →
      ∃ items : List (WorkItem Span),
        items.length = length * count ∧
        (∀ size index : Nat, 0 < size → size ≤ length → index < count →
          ∃ item : WorkItem Span, items[(size - 1) * count + index]? = some item ∧
            item.variableIndex = index ∧ item.locations =
              (List.range (length - size + 1)).map (fun start => ⟨start, start + size⟩) ∧
            ∀ span ∈ item.locations, span.Within length) ∧
        (∀ (index : Nat) (span : Span), index < count → span.Within length →
          ∃! turn : Nat, ∃ item : WorkItem Span, items[turn]? = some item ∧
            item.variableIndex = index ∧ span ∈ item.locations) ∧
        (∀ (turn : Nat) (item : WorkItem Span), items[turn]? = some item → ∀ span ∈ item.locations,
          ∃ parts, span.splits = .ok parts ∧ ∀ pair ∈ parts, ∀ other, other < count →
            Asked (items.take turn) other pair.1 ∧ Asked (items.take turn) other pair.2) ∧
        ∀ calls, ∃ after, (start length count).take calls = .ok (items.take calls, after) ∧
          after.remaining = .ok (length * count - calls) ∧
          (after.next? = .ok none ↔ length * count ≤ calls)) := by
  refine ⟨?_, next?_start_of_no_room, fun room => ⟨work length count, ?_, ?_, ?_, ?_, ?_⟩⟩
  · rw [← position_zero, remaining_position word total, Nat.sub_zero]
  · rw [work, List.length_map, List.length_range]
  · intro size index sizePos sizeLe indexLt
    refine ⟨_, getElem?_work_of_size sizePos sizeLe indexLt, rfl, ?_, fun span member => ?_⟩
    · rw [spansOfLength, spanCount, if_neg (Nat.ne_of_gt sizePos), Nat.sub_add_comm sizeLe]
    · exact (mem_spansOfLength.mp member).1
  · exact fun index span indexLt within => existsUnique_work indexLt within
  · exact fun turn item found span member => asked_of_splits word found member
  · intro calls
    have taken := take_position_any word room calls 0 (Nat.zero_le _)
    rw [position_zero, Nat.sub_zero, ← List.range_eq_range', Nat.zero_add] at taken
    refine ⟨_, taken, ?_, ?_⟩
    · rw [remaining_position word total]
      congr 1
      omega
    · rw [next?_position_eq_none_iff word room]
      omega

/-- Two variables over three positions: six items, and two of them are left after four calls. -/
theorem calls_take_work_in_order_of_two_variables :
    ((3 + 1 < Word.limit ∧ 3 * 2 < Word.limit) ∧
      (0 < 3 * 2 → Memory.spanSize * 3 ≤ Memory.largestObject)) ∧
    ∃ items : List (WorkItem Span), items.length = 3 * 2 ∧
      ∃ after, (start 3 2).take 4 = .ok (items.take 4, after) ∧
        after.remaining = .ok (3 * 2 - 4) := by
  have room : 0 < 3 * 2 → Memory.spanSize * 3 ≤ Memory.largestObject := fun _ => by decide
  refine ⟨⟨⟨by decide, by decide⟩, room⟩, ?_⟩
  obtain ⟨items, total, _, _, _, calls⟩ :=
    (calls_take_work_in_order 3 2 (by decide) (by decide)).2.2 room
  obtain ⟨after, taken, left, _⟩ := calls 4
  exact ⟨items, total, after, taken, left⟩

/-- Lengths and numbers of items that are words are not enough for a schedule to have items: for one
variable over 2^59 positions the first call aborts, since the spans of the first item exceed the
largest object of memory. -/
theorem next?_start_of_words_without_room :
    576460752303423488 + 1 < Word.limit ∧ 576460752303423488 * 1 < Word.limit ∧
    0 < 576460752303423488 * 1 ∧
    (start 576460752303423488 1).next? = .error .allocation :=
  ⟨by decide, by decide, by decide, next?_start_of_no_room (by decide) (by decide)⟩

end SpanSchedule

end RecursiveBayes
