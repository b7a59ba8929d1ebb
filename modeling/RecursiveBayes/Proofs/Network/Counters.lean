/-
This file says what the counts of a workspace become. What an update adds to them is
a matter of plain numbers; that the counts are words decides whether it is added. If a
count would outgrow a word, the run aborts, and only the counts before it have been
raised.

Counts only ever grow. So counts that are words after some updates were words after each
of them, and one condition on the last counts is all that a run needs.
-/

import RecursiveBayes.Network.Inside
import RecursiveBayes.Proofs.Chart.Entries

open RecursiveBayes.Action

namespace RecursiveBayes

/-! ### Checked sums -/

theorem Word.checked_eq_error {value : Nat} (tooLarge : Word.limit ≤ value) :
    Word.checked value = .error .overflow :=
  if_neg (Nat.not_lt.mpr tooLarge)

theorem Span.length_eq_ok {span : Span} (ordered : span.start ≤ span.stop) :
    span.length = .ok (span.stop - span.start) :=
  Word.sub_eq_ok ordered

namespace Statistics

/-- The number of split points of some spans. A span within a sequence has one split point less
than it has positions. -/
def pointsOf (spans : List Span) : Nat :=
  Sizes.total (spans.map fun span => span.stop - span.start - 1)

/-- Split points are added up if they stay a word all the way, and that they do if their sum is
one. -/
theorem foldlM_addSplits {spans : List Span} (ordered : ∀ span ∈ spans, span.start ≤ span.stop)
    {points : Nat} (word : points < Word.limit) :
    spans.foldlM addSplits points = Word.checked (points + pointsOf spans) := by
  induction spans generalizing points with
  | nil => exact (if_pos word).symm
  | cons span rest inductionHypothesis =>
    obtain ⟨here, others⟩ := List.forall_mem_cons.mp ordered
    have both : points + pointsOf (span :: rest) =
        points + (span.stop - span.start - 1) + pointsOf rest := by
      rw [pointsOf, List.map_cons, Sizes.total, ← Nat.add_assoc, pointsOf]
    have first : addSplits points span = Word.checked (points + (span.stop - span.start - 1)) := by
      rw [addSplits, Span.length_eq_ok here]
      rfl
    rw [List.foldlM_cons, first, both]
    by_cases small : points + (span.stop - span.start - 1) < Word.limit
    · rw [Word.checked, if_pos small]
      exact inductionHypothesis others small
    · have large := Nat.not_lt.mp small
      rw [Word.checked_eq_error large, Word.checked_eq_error (Nat.le_add_right_of_le large)]
      rfl

/-! ### Single counts -/

section Counts

variable (statistics : Statistics)

theorem countItem_eq :
    statistics.countItem =
      if statistics.workItems + 1 < Word.limit then
        .ok { statistics with workItems := statistics.workItems + 1 }
      else
        .error .overflow := by
  rw [countItem, Word.add, Word.checked]
  split <;> rfl

theorem countVectors_eq (vectors : Nat) :
    statistics.countVectors vectors =
      if statistics.cellUpdates + vectors < Word.limit then
        .ok { statistics with cellUpdates := statistics.cellUpdates + vectors }
      else
        .error .overflow := by
  rw [countVectors, Word.add, Word.checked]
  split <;> rfl

/-- The split points are added up first, and then to the count. As the count is no less than either,
it alone decides. -/
theorem countSplits_eq {spans : List Span} (ordered : ∀ span ∈ spans, span.start ≤ span.stop) :
    statistics.countSplits spans =
      if statistics.splitPoints + pointsOf spans < Word.limit then
        .ok { statistics with splitPoints := statistics.splitPoints + pointsOf spans }
      else
        .error .overflow := by
  rw [countSplits, foldlM_addSplits ordered (by decide), Nat.zero_add]
  by_cases small : pointsOf spans < Word.limit
  · rw [Word.checked, if_pos small, ok_bind, Word.add, Word.checked]
    split <;> rfl
  · have large := Nat.not_lt.mp small
    rw [Word.checked_eq_error large, if_neg (Nat.not_lt.mpr (Nat.le_add_left_of_le large))]
    rfl

end Counts

/-! ### Counts as numbers -/

/-- The counts after an update at some spans, if there were no end of words. -/
def afterUpdate (statistics : Statistics) (spans : List Span) : Statistics where
  sequenceLength := statistics.sequenceLength
  workItems := statistics.workItems + 1
  cellUpdates := statistics.cellUpdates + spans.length
  splitPoints := statistics.splitPoints + pointsOf spans

/-- The counts after an update at some spans that had to stop: those before the first one that would
outgrow a word are raised. -/
def untilOverflow (statistics : Statistics) (spans : List Span) : Statistics where
  sequenceLength := statistics.sequenceLength
  workItems :=
    if statistics.workItems + 1 < Word.limit then statistics.workItems + 1
    else statistics.workItems
  cellUpdates :=
    if statistics.workItems + 1 < Word.limit ∧
        statistics.cellUpdates + spans.length < Word.limit then
      statistics.cellUpdates + spans.length
    else
      statistics.cellUpdates
  splitPoints := statistics.splitPoints

/-- All counts are words. -/
def Words (statistics : Statistics) : Prop :=
  statistics.workItems < Word.limit ∧ statistics.cellUpdates < Word.limit ∧
    statistics.splitPoints < Word.limit

instance (statistics : Statistics) : Decidable statistics.Words :=
  inferInstanceAs (Decidable (_ ∧ _))

/-- Before any update, all counts are zero. -/
theorem words_fresh (sequenceLength : Nat) :
    ({ sequenceLength := sequenceLength } : Statistics).Words := by
  have positive : 0 < Word.limit := by decide
  exact ⟨positive, positive, positive⟩

/-- Counts that are words after an update were words before it. -/
theorem Words.of_afterUpdate {statistics : Statistics} {spans : List Span}
    (words : (statistics.afterUpdate spans).Words) : statistics.Words := by
  obtain ⟨items, vectors, points⟩ := words
  exact ⟨Nat.lt_of_le_of_lt (Nat.le_add_right _ _) items,
    Nat.lt_of_le_of_lt (Nat.le_add_right _ _) vectors,
    Nat.lt_of_le_of_lt (Nat.le_add_right _ _) points⟩

/-! ### Counts stay words -/

section Checked

variable {statistics next : Statistics} (words : statistics.Words)
include words

theorem Words.countItem (counted : statistics.countItem = .ok next) : next.Words := by
  obtain ⟨items, added, same⟩ := bind_eq_ok_iff.mp counted
  cases same
  obtain ⟨word, rfl⟩ := Word.checked_eq_ok_iff.mp added
  exact ⟨word, words.2⟩

theorem Words.countVectors {vectors : Nat} (counted : statistics.countVectors vectors = .ok next) :
    next.Words := by
  obtain ⟨updates, added, same⟩ := bind_eq_ok_iff.mp counted
  cases same
  obtain ⟨word, rfl⟩ := Word.checked_eq_ok_iff.mp added
  exact ⟨words.1, word, words.2.2⟩

theorem Words.countSplits {spans : List Span} (counted : statistics.countSplits spans = .ok next) :
    next.Words := by
  obtain ⟨_, _, rest⟩ := bind_eq_ok_iff.mp counted
  obtain ⟨points, added, same⟩ := bind_eq_ok_iff.mp rest
  cases same
  obtain ⟨word, rfl⟩ := Word.checked_eq_ok_iff.mp added
  exact ⟨words.1, words.2.1, word⟩

end Checked

/-! ### Counts of many updates -/

/-- The counts after an update for each of some items. -/
def afterItems (statistics : Statistics) (items : List (WorkItem Span)) : Statistics :=
  items.foldl (fun counted item => counted.afterUpdate item.locations) statistics

theorem afterItems_cons (statistics : Statistics) (item : WorkItem Span)
    (rest : List (WorkItem Span)) :
    statistics.afterItems (item :: rest) =
      (statistics.afterUpdate item.locations).afterItems rest := rfl

/-- Counts that are words after some items were words at the start, and so after each item. -/
theorem Words.of_afterItems {statistics : Statistics} {items : List (WorkItem Span)}
    (words : (statistics.afterItems items).Words) : statistics.Words := by
  induction items generalizing statistics with
  | nil => exact words
  | cons item rest inductionHypothesis => exact (inductionHypothesis words).of_afterUpdate

/-- Some items count one update for each of them, all their spans, and the split points of all their
spans. -/
theorem afterItems_eq (statistics : Statistics) (items : List (WorkItem Span)) :
    statistics.afterItems items =
      { sequenceLength := statistics.sequenceLength
        workItems := statistics.workItems + items.length
        cellUpdates := statistics.cellUpdates +
          Sizes.total (items.map fun item => item.locations.length)
        splitPoints := statistics.splitPoints +
          Sizes.total (items.map fun item => pointsOf item.locations) } := by
  induction items generalizing statistics with
  | nil => rfl
  | cons item rest inductionHypothesis =>
    rw [afterItems_cons, inductionHypothesis]
    simp only [afterUpdate, List.length_cons, List.map_cons, Sizes.total, Nat.add_assoc,
      Nat.add_comm 1]

/-- The counts increased by some work, for the sequence that they are about. -/
def raisedBy (statistics work : Statistics) : Statistics where
  sequenceLength := statistics.sequenceLength
  workItems := statistics.workItems + work.workItems
  cellUpdates := statistics.cellUpdates + work.cellUpdates
  splitPoints := statistics.splitPoints + work.splitPoints

/-- Counting some items from a start raises the start by what is counted from nothing. -/
theorem afterItems_eq_raisedBy (statistics : Statistics) (items : List (WorkItem Span))
    (sequenceLength : Nat) :
    statistics.afterItems items =
      statistics.raisedBy (afterItems { sequenceLength := sequenceLength } items) := by
  rw [afterItems_eq, afterItems_eq]
  simp only [raisedBy, Nat.zero_add]

end Statistics

/-! ### Counting -/

namespace Network

variable {α : Type}

theorem runOn_count (change : Statistics → Checked Statistics) (workspace : Workspace α) :
    runOn (count change) workspace =
      match change workspace.statistics with
      | .ok statistics => (.ok (), { workspace with statistics := statistics })
      | .error cause => (.error (.abort cause), workspace) := by
  rw [count, runOn_get_bind]
  cases change workspace.statistics <;> rfl

/-- An update at spans that are not reversed is counted if the counts stay words, and aborts if they
do not. The three counts are raised one after the other, so the cases are those of the first one
that is too large. -/
theorem runOn_countUpdate {spans : List Span} (ordered : ∀ span ∈ spans, span.start ≤ span.stop)
    (workspace : Workspace α) :
    runOn (countUpdate spans) workspace =
      if (workspace.statistics.afterUpdate spans).Words then
        (.ok (), { workspace with statistics := workspace.statistics.afterUpdate spans })
      else
        (.error (.abort .overflow),
          { workspace with statistics := workspace.statistics.untilOverflow spans }) := by
  rw [countUpdate, runOn_bind, runOn_count, Statistics.countItem_eq, Statistics.untilOverflow]
  by_cases items : workspace.statistics.workItems + 1 < Word.limit
  · simp only [if_pos items]
    rw [runOn_bind, runOn_count, Statistics.countVectors_eq]
    by_cases vectors : workspace.statistics.cellUpdates + spans.length < Word.limit
    · simp only [if_pos vectors]
      rw [runOn_count, Statistics.countSplits_eq _ ordered]
      by_cases points : workspace.statistics.splitPoints + Statistics.pointsOf spans < Word.limit
      · simp only [if_pos points]
        rw [if_pos ⟨items, vectors, points⟩, Statistics.afterUpdate]
      · simp only [if_neg points]
        rw [if_neg fun words => points words.2.2, if_pos ⟨items, vectors⟩]
    · simp only [if_neg vectors]
      rw [if_neg fun words => vectors words.2.1, if_neg fun both => vectors both.2]
  · simp only [if_neg items]
    rw [if_neg fun words => items words.1, if_neg fun both => items both.1]

end Network

end RecursiveBayes
