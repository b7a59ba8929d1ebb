/-
This file is about searches for the first item of a list that gives a result. A search
through the parts of a list is a search through the members of the parts, one after
the other. Where the list follows an order of the items, a search finds what the first
item in this order gives; where only one item is wanted, the order does not matter.
-/

import Mathlib.Data.List.Basic

namespace RecursiveBayes

variable {Item Part Result : Type}

/-- A search through the parts of a list finds what a search through all members of the parts
finds. -/
theorem findSome?_eq_findSome?_flatMap {part : Part → Option Result} {members : Part → List Item}
    {item : Item → Option Result} {parts : List Part}
    (each : ∀ entry ∈ parts, part entry = (members entry).findSome? item) :
    parts.findSome? part = (parts.flatMap members).findSome? item := by
  induction parts with
  | nil => rfl
  | cons first rest inductionHypothesis =>
    obtain ⟨here, others⟩ := List.forall_mem_cons.mp each
    rw [List.findSome?_cons, List.flatMap_cons, List.findSome?_append, ← here,
      ← inductionHypothesis others]
    cases part first <;> rfl

theorem findSome?_pair {item : Item → Option Result} {first second : Item} :
    [first, second].findSome? item = (item first).or (item second) := by
  rw [List.findSome?_cons, List.findSome?_cons, List.findSome?_nil]
  cases item first <;> cases item second <;> rfl

/-- Where the order of a list is that of a relation, a search finds the result of the item that
comes first in the relation. Items outside the list have no result. -/
theorem findSome?_eq_some_iff_first {Before : Item → Item → Prop} {item : Item → Option Result}
    {items : List Item} {result : Result} (ordered : items.Pairwise Before)
    (asymmetric : ∀ first second, Before first second → ¬ Before second first)
    (complete : ∀ entry, item entry ≠ none → entry ∈ items) :
    items.findSome? item = some result ↔
      ∃ entry, item entry = some result ∧
        ∀ earlier, Before earlier entry → item earlier = none := by
  constructor
  · intro found
    obtain ⟨front, entry, back, rfl, here, nothing⟩ := List.findSome?_eq_some_iff.mp found
    refine ⟨entry, here, fun earlier before => ?_⟩
    by_contra some_result
    obtain ⟨_, inBack, _⟩ := List.pairwise_append.mp ordered
    rcases List.mem_append.mp (complete earlier some_result) with inFront | member
    · exact some_result (nothing earlier inFront)
    · rcases List.mem_cons.mp member with rfl | later
      · exact asymmetric _ _ before before
      · exact asymmetric _ _ before ((List.pairwise_cons.mp inBack).1 earlier later)
  · rintro ⟨entry, here, nothing⟩
    have member : entry ∈ items := complete entry (by rw [here]; exact Option.some_ne_none _)
    obtain ⟨front, back, rfl⟩ := List.append_of_mem member
    refine List.findSome?_eq_some_iff.mpr ⟨front, entry, back, rfl, here, fun earlier inFront => ?_⟩
    obtain ⟨_, _, across⟩ := List.pairwise_append.mp ordered
    exact nothing earlier (across earlier inFront entry List.mem_cons_self)

/-- A search finds an item of the list that no other item can be taken for. -/
theorem find?_eq_some_of_unique {items : List Item} {wanted : Item → Bool} {item : Item}
    (member : item ∈ items) (here : wanted item = true)
    (unique : ∀ other ∈ items, wanted other = true → other = item) :
    items.find? wanted = some item := by
  cases found : items.find? wanted with
  | none => exact absurd here (List.find?_eq_none.mp found item member)
  | some other =>
    rw [unique other (List.mem_of_find?_eq_some found) (List.find?_some found)]

end RecursiveBayes
