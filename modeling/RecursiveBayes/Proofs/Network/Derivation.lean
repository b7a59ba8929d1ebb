/-
This file compares the pass with the derivation trees of a network. A leaf of a tree
is a terminal transition that emits one observation, and an inner node is a binary
transition with the values of its two parts. The weight of a tree is the product of
all choices that it makes.

The pass never builds a tree. Over the rational numbers its entries are the sums
of the weights of all trees with the right yield, because a sum over trees factors
at the root: the choice of a transition, of a split point and of two values, and
then the trees of the two parts, which are chosen independently.
-/

import RecursiveBayes.Proofs.Network.Recurrence
import RecursiveBayes.Proofs.Network.Total
import RecursiveBayes.Proofs.Trees

open RecursiveBayes.Action

namespace RecursiveBayes

/-! ### Trees -/

/-- A tree of choices. A choice is the number of a transition of the cell at hand. -/
inductive Derivation where
  | leaf (choice : Nat) (observation : Option Nat)
  | node (choice leftValue rightValue : Nat) (left right : Derivation)
  deriving DecidableEq

namespace Derivation

/-- The observations at the leaves of a tree, from left to right. -/
def yield : Derivation → Phrase
  | leaf _ observation => [observation]
  | node _ _ _ left right => left.yield ++ right.yield

/-- The choice at the root of a tree. -/
def choice : Derivation → Nat
  | leaf choice _ => choice
  | node choice _ _ _ _ => choice

/-- Where the root of a tree splits the yield, and the values of the two parts. -/
def rootSplit : Derivation → Nat × Nat × Nat
  | leaf _ _ => (0, 0, 0)
  | node _ leftValue rightValue left _ => (left.yield.length, leftValue, rightValue)

theorem yield_ne_nil (tree : Derivation) : tree.yield ≠ [] := by
  induction tree with
  | leaf choice observation => exact List.cons_ne_nil _ _
  | node choice leftValue rightValue left right leftHypothesis _ =>
    intro empty
    exact leftHypothesis (List.append_eq_nil_iff.mp empty).1

end Derivation

namespace Network

/-- A tree that derives its yield from a value of a cell: every choice is a transition of its
cell, and the parts are derived from values of the children. -/
inductive Derives (network : Network ℚ) : Nat → Nat → Derivation → Prop
  | leaf {index value choice : Nat} {cell : Cell ℚ} {transition : TerminalTransition ℚ}
      {action : ℚ} (observation : Option Nat) (found : network.cells[index]? = some cell)
      (valueLt : value < cell.cardinality)
      (chosen : cell.choices[choice]? = some (.terminal transition, action)) :
    network.Derives index value (.leaf choice observation)
  | node {index value choice leftValue rightValue : Nat} {cell : Cell ℚ}
      {transition : BinaryTransition ℚ} {action : ℚ} {left right : Derivation}
      (found : network.cells[index]? = some cell) (valueLt : value < cell.cardinality)
      (chosen : cell.choices[choice]? = some (.binary transition, action))
      (leftDerives : network.Derives (transition.leftIndex index) leftValue left)
      (rightDerives : network.Derives (transition.rightIndex index) rightValue right) :
    network.Derives index value (.node choice leftValue rightValue left right)

/-- A transition of a cell with the probability that it is chosen. -/
def choice? (network : Network ℚ) (index choice : Nat) : Option (Transition ℚ × ℚ) := do
  let cell ← network.cells[index]?
  cell.choices[choice]?

/-- The product of the probabilities of all choices of a tree that derives its yield from a value
of a cell. -/
def weight (network : Network ℚ) : Derivation → Nat → Nat → ℚ
  | .leaf choice observation, index, value =>
    match network.choice? index choice with
    | some (.terminal transition, action) => action * transition.observed observation value
    | _ => 0
  | .node choice leftValue rightValue left right, index, value =>
    match network.choice? index choice with
    | some (.binary transition, action) =>
      action * (transition.probability leftValue rightValue value *
        (network.weight left (transition.leftIndex index) leftValue *
          network.weight right (transition.rightIndex index) rightValue))
    | _ => 0

variable {network : Network ℚ}

theorem choice?_eq {index : Nat} {cell : Cell ℚ} (found : network.cells[index]? = some cell)
    (choice : Fin cell.choices.length) :
    network.choice? index choice.val = some (cell.choices.get choice) := by
  rw [choice?, found]
  exact List.getElem?_eq_getElem choice.isLt

/-! ### All trees of a phrase -/

/-- The trees that begin with a given choice, from the trees of all shorter phrases. -/
def treesOf (index choice : Nat) (phrase : Phrase)
    (shorter : Nat → Nat → Phrase → Finset Derivation) : Transition ℚ → Finset Derivation
  | .terminal _ =>
    match phrase with
    | [observation] => {.leaf choice observation}
    | _ => ∅
  | .binary transition =>
    (Finset.Ico 1 phrase.length ×ˢ (Finset.range transition.leftCardinality ×ˢ
        Finset.range transition.rightCardinality)).biUnion fun split =>
      (shorter (transition.leftIndex index) split.2.1 (phrase.take split.1) ×ˢ
          shorter (transition.rightIndex index) split.2.2 (phrase.drop split.1)).image
        fun parts => .node choice split.2.1 split.2.2 parts.1 parts.2

/-- The trees that begin with a binary transition join trees of shorter phrases. -/
theorem treesOf_binary (index choice : Nat) (phrase : Phrase)
    (shorter : Nat → Nat → Phrase → Finset Derivation) (transition : BinaryTransition ℚ) :
    treesOf index choice phrase shorter (.binary transition) =
      Trees.joined (Finset.Ico 1 phrase.length ×ˢ (Finset.range transition.leftCardinality ×ˢ
          Finset.range transition.rightCardinality))
        (fun split => shorter (transition.leftIndex index) split.2.1 (phrase.take split.1))
        (fun split => shorter (transition.rightIndex index) split.2.2 (phrase.drop split.1))
        fun split left right => .node choice split.2.1 split.2.2 left right :=
  rfl

/-- All trees that derive a phrase from a value of a cell. -/
def derivations (network : Network ℚ) (index value : Nat) (phrase : Phrase) :
    Finset Derivation :=
  match network.cells[index]? with
  | none => ∅
  | some cell =>
    if value < cell.cardinality then
      Finset.univ.biUnion fun choice : Fin cell.choices.length =>
        treesOf index choice.val phrase (fun child childValue part =>
          if part.length < phrase.length then network.derivations child childValue part else ∅)
          (cell.choices.get choice).1
    else
      ∅
termination_by phrase.length

/-- The guard on the lengths of the parts is only there to make the recursion end. -/
theorem derivations_eq {index value : Nat} {cell : Cell ℚ}
    (found : network.cells[index]? = some cell) (valueLt : value < cell.cardinality)
    (phrase : Phrase) :
    network.derivations index value phrase =
      Finset.univ.biUnion fun choice : Fin cell.choices.length =>
        treesOf index choice.val phrase network.derivations (cell.choices.get choice).1 := by
  rw [derivations, found]
  simp only [if_pos valueLt]
  refine Finset.biUnion_congr rfl fun choice _ => ?_
  cases (cell.choices.get choice).1 with
  | terminal transition => rfl
  | binary transition =>
    refine Finset.biUnion_congr rfl fun split member => ?_
    obtain ⟨left, right⟩ := Trees.length_parts_lt (Finset.mem_product.mp member).1
    simp only [if_pos left, if_pos right]

/-- A tree of a phrase begins with one of the choices of the cell. -/
theorem mem_derivations_iff_choice {index value : Nat} {phrase : Phrase} {tree : Derivation} :
    tree ∈ network.derivations index value phrase ↔
      ∃ cell, network.cells[index]? = some cell ∧ value < cell.cardinality ∧
        ∃ choice transition action, cell.choices[choice]? = some (transition, action) ∧
          tree ∈ treesOf index choice phrase network.derivations transition := by
  constructor
  · intro member
    cases found : network.cells[index]? with
    | none =>
      rw [derivations, found] at member
      exact absurd member (Finset.notMem_empty _)
    | some cell =>
      by_cases valueLt : value < cell.cardinality
      · rw [derivations_eq found valueLt] at member
        obtain ⟨choice, _, here⟩ := Finset.mem_biUnion.mp member
        exact ⟨cell, rfl, valueLt, choice.val, _, _, List.getElem?_eq_getElem choice.isLt, here⟩
      · rw [derivations, found] at member
        simp only [if_neg valueLt] at member
        exact absurd member (Finset.notMem_empty _)
  · rintro ⟨cell, found, valueLt, choice, transition, action, chosen, here⟩
    obtain ⟨choiceLt, chosenHere⟩ := List.getElem?_eq_some_iff.mp chosen
    have same : cell.choices.get ⟨choice, choiceLt⟩ = (transition, action) := chosenHere
    rw [derivations_eq found valueLt]
    refine Finset.mem_biUnion.mpr ⟨⟨choice, choiceLt⟩, Finset.mem_univ _, ?_⟩
    rw [same]
    exact here

theorem mem_treesOf_terminal {index choice : Nat} {phrase : Phrase}
    {shorter : Nat → Nat → Phrase → Finset Derivation} {transition : TerminalTransition ℚ}
    {tree : Derivation} :
    tree ∈ treesOf index choice phrase shorter (.terminal transition) ↔
      ∃ observation, phrase = [observation] ∧ tree = .leaf choice observation := by
  match phrase with
  | [] => simp [treesOf]
  | [observation] => simp [treesOf]
  | first :: second :: rest => simp [treesOf]

theorem mem_treesOf_binary {index choice : Nat} {phrase : Phrase}
    {shorter : Nat → Nat → Phrase → Finset Derivation} {transition : BinaryTransition ℚ}
    {tree : Derivation} :
    tree ∈ treesOf index choice phrase shorter (.binary transition) ↔
      ∃ point leftValue rightValue left right, point ∈ Finset.Ico 1 phrase.length ∧
        leftValue < transition.leftCardinality ∧ rightValue < transition.rightCardinality ∧
        left ∈ shorter (transition.leftIndex index) leftValue (phrase.take point) ∧
        right ∈ shorter (transition.rightIndex index) rightValue (phrase.drop point) ∧
        tree = .node choice leftValue rightValue left right := by
  simp only [treesOf_binary, Trees.mem_joined, Finset.mem_product, Finset.mem_range, Prod.exists]
  constructor
  · rintro ⟨point, leftValue, rightValue, ⟨inside, leftLt, rightLt⟩, left, leftMember, right,
      rightMember, rfl⟩
    exact ⟨point, leftValue, rightValue, left, right, inside, leftLt, rightLt, leftMember,
      rightMember, rfl⟩
  · rintro ⟨point, leftValue, rightValue, left, right, inside, leftLt, rightLt, leftMember,
      rightMember, rfl⟩
    exact ⟨point, leftValue, rightValue, ⟨inside, leftLt, rightLt⟩, left, leftMember, right,
      rightMember, rfl⟩

theorem value_lt_of_derives {index value : Nat} {tree : Derivation} {cell : Cell ℚ}
    (derives : network.Derives index value tree) (found : network.cells[index]? = some cell) :
    value < cell.cardinality := by
  cases derives with
  | leaf _ foundHere valueLt _ =>
    cases found.symm.trans foundHere
    exact valueLt
  | node foundHere valueLt _ _ _ =>
    cases found.symm.trans foundHere
    exact valueLt

theorem derives_of_mem_derivations {index value : Nat} {phrase : Phrase} {tree : Derivation}
    (member : tree ∈ network.derivations index value phrase) :
    network.Derives index value tree ∧ tree.yield = phrase := by
  induction tree generalizing index value phrase with
  | leaf choice observation =>
    obtain ⟨cell, found, valueLt, place, transition, action, chosen, here⟩ :=
      mem_derivations_iff_choice.mp member
    cases transition with
    | terminal transition =>
      obtain ⟨_, rfl, same⟩ := mem_treesOf_terminal.mp here
      cases same
      exact ⟨.leaf observation found valueLt chosen, rfl⟩
    | binary transition =>
      obtain ⟨_, _, _, _, _, _, _, _, _, _, same⟩ := mem_treesOf_binary.mp here
      cases same
  | node choice leftValue rightValue left right leftHypothesis rightHypothesis =>
    obtain ⟨cell, found, valueLt, place, transition, action, chosen, here⟩ :=
      mem_derivations_iff_choice.mp member
    cases transition with
    | terminal transition =>
      obtain ⟨_, _, same⟩ := mem_treesOf_terminal.mp here
      cases same
    | binary transition =>
      obtain ⟨point, _, _, _, _, _, _, _, leftMember, rightMember, same⟩ :=
        mem_treesOf_binary.mp here
      cases same
      obtain ⟨leftDerives, leftYield⟩ := leftHypothesis leftMember
      obtain ⟨rightDerives, rightYield⟩ := rightHypothesis rightMember
      refine ⟨.node found valueLt chosen leftDerives rightDerives, ?_⟩
      rw [Derivation.yield, leftYield, rightYield, List.take_append_drop]

theorem mem_derivations_of_derives {index value : Nat} {tree : Derivation}
    (derives : network.Derives index value tree) :
    tree ∈ network.derivations index value tree.yield := by
  induction derives with
  | @leaf index value choice cell transition action observation found valueLt chosen =>
    exact mem_derivations_iff_choice.mpr ⟨cell, found, valueLt, choice, _, action, chosen,
      mem_treesOf_terminal.mpr ⟨observation, rfl, rfl⟩⟩
  | @node index value choice leftValue rightValue cell transition action left right found valueLt
      chosen leftDerives rightDerives leftHypothesis rightHypothesis =>
    obtain ⟨⟨leftCell, foundLeft, leftFits⟩, rightCell, foundRight, rightFits⟩ :=
      network.exists_children found (List.of_mem_zip (List.mem_of_getElem? chosen)).1
    have leftLength := List.length_pos_iff.mpr left.yield_ne_nil
    have rightLength := List.length_pos_iff.mpr right.yield_ne_nil
    refine mem_derivations_iff_choice.mpr ⟨cell, found, valueLt, choice, _, action, chosen, ?_⟩
    refine mem_treesOf_binary.mpr ⟨left.yield.length, leftValue, rightValue, left, right, ?_,
      leftFits ▸ value_lt_of_derives leftDerives foundLeft,
      rightFits ▸ value_lt_of_derives rightDerives foundRight, ?_, ?_, rfl⟩
    · rw [Derivation.yield, List.length_append]
      exact Finset.mem_Ico.mpr ⟨leftLength, Nat.lt_add_of_pos_right rightLength⟩
    · rw [Derivation.yield, List.take_left]
      exact leftHypothesis
    · rw [Derivation.yield, List.drop_left]
      exact rightHypothesis

/-- All trees of a phrase are the trees that derive it. -/
theorem mem_derivations_iff {index value : Nat} {phrase : Phrase} {tree : Derivation} :
    tree ∈ network.derivations index value phrase ↔
      network.Derives index value tree ∧ tree.yield = phrase := by
  refine ⟨derives_of_mem_derivations, ?_⟩
  rintro ⟨derives, rfl⟩
  exact mem_derivations_of_derives derives

/-! ### The sum of the weights -/

theorem choice_of_mem_treesOf {index choice : Nat} {phrase : Phrase}
    {shorter : Nat → Nat → Phrase → Finset Derivation} {transition : Transition ℚ}
    {tree : Derivation} (member : tree ∈ treesOf index choice phrase shorter transition) :
    tree.choice = choice := by
  cases transition with
  | terminal transition =>
    obtain ⟨_, _, rfl⟩ := mem_treesOf_terminal.mp member
    rfl
  | binary transition =>
    obtain ⟨_, _, _, _, _, _, _, _, _, _, rfl⟩ := mem_treesOf_binary.mp member
    rfl

/-- The leaves of a terminal transition weigh what the transition contributes. -/
theorem sum_weight_treesOf_terminal {index value : Nat} {phrase : Phrase} {choice : Nat}
    {transition : TerminalTransition ℚ} {action : ℚ}
    (chosen : network.choice? index choice = some (.terminal transition, action)) :
    ∑ tree ∈ treesOf index choice phrase network.derivations (.terminal transition),
        network.weight tree index value =
      action * network.contribution index phrase value (.terminal transition) := by
  match phrase with
  | [] => exact (mul_zero action).symm
  | [observation] =>
    rw [treesOf, Finset.sum_singleton, weight, chosen]
    rfl
  | first :: second :: rest => exact (mul_zero action).symm

/-- The trees of a binary transition factor at the root: the trees of the two parts are chosen
independently. -/
theorem sum_weight_treesOf_binary {index value : Nat} {phrase : Phrase} {choice : Nat}
    {transition : BinaryTransition ℚ} {action : ℚ}
    (chosen : network.choice? index choice = some (.binary transition, action))
    (parts : ∀ point ∈ Finset.Ico 1 phrase.length,
      (∀ leftValue ∈ Finset.range transition.leftCardinality,
        ∑ tree ∈ network.derivations (transition.leftIndex index) leftValue (phrase.take point),
          network.weight tree (transition.leftIndex index) leftValue =
            network.insideEntry (transition.leftIndex index) (phrase.take point) leftValue) ∧
      (∀ rightValue ∈ Finset.range transition.rightCardinality,
        ∑ tree ∈ network.derivations (transition.rightIndex index) rightValue
            (phrase.drop point),
          network.weight tree (transition.rightIndex index) rightValue =
            network.insideEntry (transition.rightIndex index) (phrase.drop point) rightValue)) :
    ∑ tree ∈ treesOf index choice phrase network.derivations (.binary transition),
        network.weight tree index value =
      action * network.contribution index phrase value (.binary transition) := by
  have injective (split : Nat × Nat × Nat) : Function.Injective2
      fun left right => Derivation.node choice split.2.1 split.2.2 left right :=
    fun left otherLeft right otherRight same => by
      cases same
      exact ⟨rfl, rfl⟩
  have factors (split : Nat × Nat × Nat) (left right : Derivation) :
      network.weight (.node choice split.2.1 split.2.2 left right) index value =
        action * transition.probability split.2.1 split.2.2 value *
          (network.weight left (transition.leftIndex index) split.2.1 *
            network.weight right (transition.rightIndex index) split.2.2) := by
    simp only [weight, chosen]
    exact (mul_assoc _ _ _).symm
  -- The root of a tree tells where it splits and into which values, so no tree is counted twice.
  rw [treesOf_binary, Trees.sum_joined injective Derivation.rootSplit ?tells
    fun split _ left _ right _ => factors split left right]
  · rw [contribution, Finset.sum_product, Finset.mul_sum]
    refine Finset.sum_congr rfl fun point inside => ?_
    obtain ⟨leftTrees, rightTrees⟩ := parts point inside
    rw [Finset.sum_product, Finset.mul_sum]
    refine Finset.sum_congr rfl fun leftValue leftMember => ?_
    rw [Finset.mul_sum]
    refine Finset.sum_congr rfl fun rightValue rightMember => ?_
    rw [leftTrees leftValue leftMember, rightTrees rightValue rightMember, mul_assoc]
  case tells =>
    rintro ⟨point, leftValue, rightValue⟩ place left leftMember right _
    obtain ⟨_, before⟩ := Finset.mem_Ico.mp (Finset.mem_product.mp place).1
    have leftYield := (derives_of_mem_derivations leftMember).2
    rw [Derivation.rootSplit, leftYield, List.length_take, Nat.min_eq_left (Nat.le_of_lt before)]

/-- An entry is the sum of the weights of all trees that derive the phrase from the value. -/
theorem sum_weight_derivations {index value : Nat} {cell : Cell ℚ}
    (found : network.cells[index]? = some cell) (valueLt : value < cell.cardinality)
    (phrase : Phrase) :
    ∑ tree ∈ network.derivations index value phrase, network.weight tree index value =
      network.insideEntry index phrase value := by
  -- By induction on the length of the phrase, for all cells at once.
  induction lengthIs : phrase.length using Nat.strong_induction_on
    generalizing index value cell phrase with
  | _ length inductionHypothesis =>
    subst lengthIs
    rw [derivations_eq found valueLt,
      Trees.sum_biUnion_of_label Fin.val_injective Derivation.choice
        (fun choice _ tree member => choice_of_mem_treesOf member),
      insideEntry_eq_sum found valueLt]
    refine Finset.sum_congr rfl fun choice _ => ?_
    have chosen := choice?_eq found choice
    have member : cell.choices.get choice ∈ cell.choices := List.get_mem _ choice
    generalize cell.choices.get choice = both at chosen member
    obtain ⟨transition, action⟩ := both
    cases transition with
    | terminal transition => exact sum_weight_treesOf_terminal chosen
    | binary transition =>
      obtain ⟨⟨left, foundLeft, leftFits⟩, right, foundRight, rightFits⟩ :=
        network.exists_children found (List.of_mem_zip member).1
      refine sum_weight_treesOf_binary chosen fun point inside => ?_
      obtain ⟨shortLeft, shortRight⟩ := Trees.length_parts_lt inside
      refine ⟨fun leftValue leftMember => ?_, fun rightValue rightMember => ?_⟩
      · rw [Finset.mem_range, ← leftFits] at leftMember
        exact inductionHypothesis _ shortLeft foundLeft leftMember _ rfl
      · rw [Finset.mem_range, ← rightFits] at rightMember
        exact inductionHypothesis _ shortRight foundRight rightMember _ rfl

/-- The probability of a sequence weighs the trees of all root cells and root values. -/
theorem likelihood_eq_sum_derivations (network : Network ℚ) (phrase : Phrase) :
    network.likelihood phrase =
      ∑ index ∈ Finset.range network.cellCount, network.rootProbability index *
        ∑ value ∈ Finset.range (network.cardinalityAt index),
          network.rootValueProbability index value *
            ∑ tree ∈ network.derivations index value phrase, network.weight tree index value := by
  rw [likelihood_eq_sum]
  refine Finset.sum_congr rfl fun index member => congrArg _ (Finset.sum_congr rfl ?_)
  intro value valueMember
  have found := List.getElem?_eq_getElem (l := network.cells) (Finset.mem_range.mp member)
  rw [Finset.mem_range, cardinalityAt_eq found] at valueMember
  rw [sum_weight_derivations found valueMember]

/-- The pass sums over derivation trees: each entry of the chart is the sum of the weights of all
trees that derive the observations in the span from the value of the cell, and the result
weighs these sums for the whole sequence by the prior. -/
theorem insideObserved_sums_derivations (network : Network ℚ) (terminals : TerminalChart)
    (nonempty : 0 < terminals.length) (accepted : network.accepts terminals.length = true)
    (fits : network.Fits terminals.length) (before : Workspace ℚ) :
    (∀ index value phrase tree, tree ∈ network.derivations index value phrase ↔
      network.Derives index value tree ∧ tree.yield = phrase) ∧
    ∃ marginal after,
      runOn (network.insideObserved terminals) before = (.ok marginal, after) ∧
      (∀ index cell span, network.cells[index]? = some cell → span.Within terminals.length →
        ∃ vector, after.chart.get? index span = some vector ∧
          vector.length = cell.cardinality ∧
          ∀ value, value < cell.cardinality → vector.getD value 0 =
            ∑ tree ∈ network.derivations index value (terminals.phrase span),
              network.weight tree index value) ∧
      marginal = ∑ index ∈ Finset.range network.cellCount, network.rootProbability index *
        ∑ value ∈ Finset.range (network.cardinalityAt index),
          network.rootValueProbability index value *
            ∑ tree ∈ network.derivations index value terminals.symbols,
              network.weight tree index value := by
  obtain ⟨after, ran, agrees, holds⟩ :=
    runOn_insideObserved accepted fits (Nat.ne_of_gt nonempty)
  refine ⟨fun _ _ _ _ => mem_derivations_iff, _, after, ran before, ?_,
    network.likelihood_eq_sum_derivations _⟩
  intro index cell span found within
  obtain ⟨indexLt, _⟩ := List.getElem?_eq_some_iff.mp found
  have entry := agrees.chart.get?_of_holds ((holds index span).mpr ⟨indexLt, within⟩)
  refine ⟨_, entry, network.length_insideVector found _, ?_⟩
  intro value valueLt
  exact (sum_weight_derivations found valueLt _).symm

/-- The small network sums over the trees of two symbols. -/
theorem specimen_sums_derivations :
    specimen.accepts 2 = true ∧ specimen.Fits 2 ∧
      ∃ marginal after,
        runOn (specimen.insideObserved ⟨[some 0, some 1]⟩) .initial = (.ok marginal, after) ∧
        marginal = ∑ index ∈ Finset.range specimen.cellCount, specimen.rootProbability index *
          ∑ value ∈ Finset.range (specimen.cardinalityAt index),
            specimen.rootValueProbability index value *
              ∑ tree ∈ specimen.derivations index value [some 0, some 1],
                specimen.weight tree index value := by
  have room : specimen.Fits 2 := fits_specimen (by decide)
  obtain ⟨_, marginal, after, ran, _, sums⟩ := insideObserved_sums_derivations specimen
    ⟨[some 0, some 1]⟩ (by decide) (by decide) room .initial
  exact ⟨by decide, room, marginal, after, ran, sums⟩

end Network

end RecursiveBayes
