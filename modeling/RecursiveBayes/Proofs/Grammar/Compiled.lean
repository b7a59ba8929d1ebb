/-
This file says what an accepted grammar is compiled to: a network of one cell, whose
transitions hold the sums of the rule weights and are weighed by the totals of the two
kinds of rules, and a prior that puts all weight on the start symbol. A kind without
rules has no transition; its total is zero, so nothing is lost.
-/

import RecursiveBayes.Proofs.Cell.Rational
import RecursiveBayes.Proofs.Grammar.Tallied
import RecursiveBayes.Proofs.Network.Building

namespace RecursiveBayes

namespace Grammar

/-! ### Totals -/

namespace Tallies

variable {nonTerminals terminals : Vocabulary} {rules : List (WeightedRule ℚ)} {tally : Tally ℚ}

theorem total_unary (tallies : Tallies nonTerminals terminals rules tally) :
    tally.unary.total = unaryWeight rules := by
  rw [Tensor.total_eq_sum, tallies.rows_unary, tallies.unaryParents,
    Finset.sum_comm, unaryWeight_eq_sum tallies.declared]
  refine nonTerminals.sum_range_eq fun lhs parent foundLhs => ?_
  exact terminals.sum_range_eq fun symbol row foundSymbol =>
    tallies.unaryEntry lhs symbol parent row foundLhs foundSymbol

theorem total_binary (tallies : Tallies nonTerminals terminals rules tally) :
    tally.binary.total = binaryWeight rules := by
  rw [Tensor.total_eq_sum, tallies.rows_binary, tallies.binaryParents,
    Finset.sum_comm, binaryWeight_eq_sum tallies.declared]
  refine nonTerminals.sum_range_eq fun lhs parent foundLhs => ?_
  rw [ValueVector.sum_range_mul]
  refine nonTerminals.sum_range_eq fun left leftChild foundLeft => ?_
  exact nonTerminals.sum_range_eq fun right rightChild foundRight =>
    tallies.binaryEntry lhs left right parent leftChild rightChild foundLhs foundLeft foundRight

end Tallies

/-! ### The cell -/

/-- At most one choice, with the given weight, and none only if there is no weight. -/
def SoleChoice (expected : Transition ℚ → Prop) (weight : ℚ)
    (choices : List (Transition ℚ × ℚ)) : Prop :=
  (choices = [] ∧ weight = 0) ∨ ∃ transition, expected transition ∧ choices = [(transition, weight)]

/-- A choice that is missing for want of weight would contribute nothing to a sum. -/
theorem SoleChoice.total {expected : Transition ℚ → Prop} {weight : ℚ}
    {choices : List (Transition ℚ × ℚ)} (sole : SoleChoice expected weight choices)
    (action : ℚ → ℚ) (never : action 0 = 0) (mass : Transition ℚ → ℚ) {each : ℚ}
    (known : ∀ transition, expected transition → mass transition = each) :
    ValueVector.total (choices.map fun choice => action choice.2 * mass choice.1) =
      action weight * each := by
  rcases sole with ⟨rfl, rfl⟩ | ⟨transition, here, rfl⟩
  · rw [never, zero_mul]
    rfl
  · rw [List.map_singleton, ValueVector.total_cons, ValueVector.total_nil, add_zero,
      known transition here]

namespace Tallies

variable {nonTerminals terminals : Vocabulary} {rules : List (WeightedRule ℚ)} {tally : Tally ℚ}
  {choices : List (Transition ℚ × ℚ)}

/-- The transition for words has the weight of all rules that rewrite to words. -/
theorem terminalTransition (tallies : Tallies nonTerminals terminals rules tally)
    (made : tally.terminalTransition = .ok choices) :
    SoleChoice (fun given => ∃ transition, given = .terminal transition ∧
      transition.table.weights = tally.unary) (unaryWeight rules) choices := by
  rw [Tally.terminalTransition] at made
  split at made
  · obtain ⟨transition, built, same⟩ := bind_eq_ok_iff.mp made
    cases same
    rw [tallies.total_unary]
    exact Or.inr ⟨_, ⟨transition, rfl, TerminalTransition.build_eq_ok_iff.mp built⟩, rfl⟩
  · rename_i absent
    cases made
    exact Or.inl ⟨rfl, weightWhere_eq_zero (tallies.hasUnary ▸ Bool.eq_false_iff.mpr absent)⟩

/-- The transition for pairs of symbols has the weight of all rules that rewrite to pairs. -/
theorem binaryTransition (tallies : Tallies nonTerminals terminals rules tally)
    (made : tally.binaryTransition = .ok choices) :
    SoleChoice (fun given => ∃ transition, given = .binary transition ∧
      transition.table.weights = tally.binary ∧ transition.children = none)
      (binaryWeight rules) choices := by
  rw [Tally.binaryTransition] at made
  split at made
  · obtain ⟨transition, built, same⟩ := bind_eq_ok_iff.mp made
    cases same
    rw [tallies.total_binary]
    exact Or.inr ⟨_, ⟨transition, rfl, BinaryTransition.build_eq_ok_iff.mp built⟩, rfl⟩
  · rename_i absent
    cases made
    exact Or.inl ⟨rfl, weightWhere_eq_zero (tallies.hasBinary ▸ Bool.eq_false_iff.mpr absent)⟩

end Tallies

/-- The cell of a tally has one value for each non-terminal, and the transitions of both kinds with
their totals. -/
theorem Tally.of_cell_eq_ok {α : Type} [Scalar α] {tally : Tally α} {size : Nat} {cell : Cell α}
    (made : tally.cell size = .ok cell) :
    cell.cardinality = size ∧ ∃ terminal binary, tally.terminalTransition = .ok terminal ∧
      tally.binaryTransition = .ok binary ∧
      cell.transitions = (terminal ++ binary).map Prod.fst ∧
      cell.weights = (terminal ++ binary).map Prod.snd := by
  rw [Tally.cell] at made
  obtain ⟨terminal, terminalMade, rest⟩ := bind_eq_ok_iff.mp made
  obtain ⟨binary, binaryMade, rest⟩ := bind_eq_ok_iff.mp rest
  dsimp only at rest
  split at rest
  · cases rest
  · obtain ⟨domain, domainBuilt, cellBuilt⟩ := bind_eq_ok_iff.mp rest
    obtain ⟨sameDomain, weights, transitions⟩ := Cell.build_eq_ok_iff.mp cellBuilt
    refine ⟨?_, terminal, binary, terminalMade, binaryMade, transitions, weights⟩
    rw [Cell.cardinality, sameDomain]
    exact Variable.build_eq_ok_iff.mp domainBuilt

/-- The choices of a cell are the transitions that it was given, each with the share of its weight
among all weights. -/
theorem choices_of_given {cell : Cell ℚ} {given : List (Transition ℚ × ℚ)}
    (transitions : cell.transitions = given.map Prod.fst)
    (weights : cell.weights = given.map Prod.snd) :
    cell.choices = given.map fun choice =>
      (choice.1, ValueVector.share (ValueVector.total (given.map Prod.snd)) choice.2) := by
  rw [Cell.choices, Cell.actions, transitions, weights, ValueVector.normalized, List.map_map]
  exact List.zip_map'

namespace Tallies

variable {nonTerminals terminals : Vocabulary} {rules : List (WeightedRule ℚ)} {tally : Tally ℚ}

theorem weights_nonneg (tallies : Tallies nonTerminals terminals rules tally) :
    0 ≤ unaryWeight rules + binaryWeight rules :=
  add_nonneg (weightWhere_nonneg tallies.nonneg _) (weightWhere_nonneg tallies.nonneg _)

/-- A sum over the choices of the cell has a summand for each kind of rules. -/
theorem sum_choices (tallies : Tallies nonTerminals terminals rules tally) {size : Nat}
    {cell : Cell ℚ} (made : tally.cell size = .ok cell) (mass : Transition ℚ → ℚ)
    {ofWords ofPairs : ℚ}
    (eachTerminal : ∀ transition, transition.table.weights = tally.unary →
      mass (.terminal transition) = ofWords)
    (eachBinary : ∀ transition, transition.table.weights = tally.binary →
      transition.children = none → mass (.binary transition) = ofPairs) :
    ∑ choice : Fin cell.choices.length,
        (cell.choices.get choice).2 * mass (cell.choices.get choice).1 =
      unaryWeight rules / (unaryWeight rules + binaryWeight rules) * ofWords +
        binaryWeight rules / (unaryWeight rules + binaryWeight rules) * ofPairs := by
  obtain ⟨_, terminal, binary, terminalMade, binaryMade, transitions, weights⟩ :=
    Tally.of_cell_eq_ok made
  have words := tallies.terminalTransition terminalMade
  have pairs := tallies.binaryTransition binaryMade
  have allWeights : ValueVector.total ((terminal ++ binary).map Prod.snd) =
      unaryWeight rules + binaryWeight rules := by
    -- The weights themselves are the case where every transition has the mass one.
    have wordWeights := words.total (fun weight => weight) rfl (fun _ => 1) fun _ _ => rfl
    have pairWeights := pairs.total (fun weight => weight) rfl (fun _ => 1) fun _ _ => rfl
    simp only [mul_one] at wordWeights pairWeights
    rw [List.map_append, ValueVector.total_append]
    exact congrArg₂ _ wordWeights pairWeights
  rw [← ValueVector.total_map cell.choices fun choice => choice.2 * mass choice.1,
    choices_of_given transitions weights, allWeights, List.map_map, List.map_append,
    ValueVector.total_append]
  have shares (weight : ℚ) := ValueVector.share_eq_div tallies.weights_nonneg weight
  rw [← shares, ← shares]
  refine congrArg₂ _ (words.total _ (ValueVector.share_zero _) mass ?_)
    (pairs.total _ (ValueVector.share_zero _) mass ?_)
  · rintro _ ⟨transition, rfl, weights⟩
    exact eachTerminal transition weights
  · rintro _ ⟨transition, rfl, weights, children⟩
    exact eachBinary transition weights children

end Tallies

/-! ### Room -/

/-- The weights of all rules that there could be over some symbols fit into memory. -/
def HasRoom (nonTerminals terminals : Nat) : Prop :=
  Memory.numberSize * (terminals * nonTerminals) ≤ Memory.largestObject ∧
    Memory.numberSize * (nonTerminals * nonTerminals * nonTerminals) ≤ Memory.largestObject

instance (nonTerminals terminals : Nat) : Decidable (HasRoom nonTerminals terminals) :=
  inferInstanceAs (Decidable (_ ∧ _))

section Phases

variable {α : Type}

/-- Symbols that were declared have the given names, and there is a non-terminal. -/
theorem of_declare_eq_ok {nonTerminalNames terminalNames : List String}
    {nonTerminals terminals : Vocabulary}
    (declared : (declare nonTerminalNames terminalNames : Built α _) =
      .ok (nonTerminals, terminals)) :
    nonTerminals.names = nonTerminalNames ∧ terminals.names = terminalNames ∧
      nonTerminalNames ≠ [] := by
  obtain ⟨firstMade, first, rest⟩ := bind_eq_ok_iff.mp declared
  obtain ⟨secondMade, second, rest⟩ := bind_eq_ok_iff.mp rest
  split at rest
  · cases rest
  · rename_i nonempty
    cases rest
    obtain rfl := Vocabulary.build_eq_ok_iff.mp first
    exact ⟨rfl, Vocabulary.build_eq_ok_iff.mp second,
      fun isEmpty => nonempty (List.isEmpty_iff.mpr isEmpty)⟩

variable [Scalar α]

theorem allocate_eq (nonTerminals terminals : Nat) :
    (Tally.allocate nonTerminals terminals : Checked (Tally α)) =
      if HasRoom nonTerminals terminals then
        .ok (.zero nonTerminals terminals)
      else
        .error .allocation := by
  rw [Tally.allocate, Memory.reserve, Memory.reserve]
  by_cases words : Memory.numberSize * (terminals * nonTerminals) ≤ Memory.largestObject
  · rw [if_pos words]
    by_cases pairs : Memory.numberSize * (nonTerminals * nonTerminals * nonTerminals) ≤
        Memory.largestObject
    · have room : HasRoom nonTerminals terminals := ⟨words, pairs⟩
      rw [if_pos pairs, if_pos room]
      rfl
    · have full : ¬ HasRoom nonTerminals terminals := fun room => pairs room.2
      rw [if_neg pairs, if_neg full]
      rfl
  · have full : ¬ HasRoom nonTerminals terminals := fun room => words room.1
    rw [if_neg words, if_neg full]
    rfl

/-- A grammar is compiled in three steps: its symbols are declared, room is made for its weights,
and then its rules are put together. -/
theorem compile_eq (nonTerminalNames terminalNames : List String) (rules : List (WeightedRule α))
    (start : String) :
    compile nonTerminalNames terminalNames rules start =
      match (declare nonTerminalNames terminalNames : Built α (Vocabulary × Vocabulary)) with
      | .error fault => .error (.fault fault)
      | .ok (nonTerminals, terminals) =>
        if HasRoom nonTerminals.size terminals.size then
          liftM (assemble nonTerminals terminals rules start
            (.zero nonTerminals.size terminals.size))
        else
          .error (.abort .allocation) := by
  rw [compile]
  rcases (declare nonTerminalNames terminalNames : Built α (Vocabulary × Vocabulary)) with
    fault | ⟨nonTerminals, terminals⟩
  · rfl
  · show (liftM (Tally.allocate nonTerminals.size terminals.size : Checked (Tally α)) >>=
      fun zero => (liftM (assemble nonTerminals terminals rules start zero) : Outcome α _)) = _
    rw [allocate_eq]
    by_cases room : HasRoom nonTerminals.size terminals.size
    · simp only [if_pos room]
      rfl
    · simp only [if_neg room]
      rfl

end Phases

/-! ### The network -/

theorem length_oneHot {α : Type} [Scalar α] (size place : Nat) :
    (oneHot size place : ValueVector α).length = size := by
  rw [oneHot, List.length_set, ValueVector.length_zeros]

/-- What the rules of an accepted grammar were compiled to. -/
structure Compiled (rules : List (WeightedRule ℚ)) (start : String) (grammar : Grammar ℚ)
    (tally : Tally ℚ) (cell : Cell ℚ) (startNumber : Nat) : Prop where
  tallies : Tallies grammar.nonTerminals grammar.terminals rules tally
  cellMade : tally.cell grammar.nonTerminals.size = .ok cell
  startFound : grammar.nonTerminals.get? start = some startNumber
  cells : grammar.network.cells = [cell]
  structuralWeights : grammar.network.prior.structuralWeights = [1]
  valueWeights : grammar.network.prior.valueWeights =
    [oneHot grammar.nonTerminals.size startNumber]
  configuration : grammar.network.configuration = {}

/-- A grammar that is accepted has the declared names, and its network was built from the cell of
all its rules and a prior for the start symbol. -/
theorem of_compile_eq_ok {α : Type} [Scalar α] {nonTerminalNames terminalNames : List String}
    {rules : List (WeightedRule α)} {start : String} {grammar : Grammar α}
    (compiled : compile nonTerminalNames terminalNames rules start = .ok grammar) :
    grammar.nonTerminals.names = nonTerminalNames ∧ grammar.terminals.names = terminalNames ∧
      ∃ tally cell startNumber,
        rules.foldlM (Tally.addRule grammar.nonTerminals grammar.terminals)
          (Tally.zero grammar.nonTerminals.size grammar.terminals.size) = .ok tally ∧
        tally.cell grammar.nonTerminals.size = .ok cell ∧
        grammar.nonTerminals.get? start = some startNumber ∧
        grammar.network.cells = [cell] ∧
        grammar.network.prior.structuralWeights = [1] ∧
        grammar.network.prior.valueWeights = [oneHot grammar.nonTerminals.size startNumber] ∧
        grammar.network.configuration = {} := by
  rw [compile_eq] at compiled
  rcases declared : (declare nonTerminalNames terminalNames : Built α _) with
    fault | ⟨nonTerminals, terminals⟩
  · rw [declared] at compiled
    cases compiled
  · simp only [declared] at compiled
    obtain ⟨nonTerminalNames_eq, terminalNames_eq, _⟩ := of_declare_eq_ok declared
    split at compiled
    · obtain ⟨tally, tallied, rest⟩ := bind_eq_ok_iff.mp (lift_eq_ok_iff.mp compiled)
      obtain ⟨cell, cellMade, rest⟩ := bind_eq_ok_iff.mp rest
      obtain ⟨startNumber, startFound, rest⟩ := bind_eq_ok_iff.mp rest
      obtain ⟨prior, priorBuilt, rest⟩ := bind_eq_ok_iff.mp rest
      obtain ⟨network, networkBuilt, same⟩ := bind_eq_ok_iff.mp rest
      cases same
      obtain ⟨cells, rfl, configuration⟩ := Network.build_eq_ok_iff.mp networkBuilt
      obtain ⟨structuralWeights, valueWeights⟩ := Prior.build_eq_ok_iff.mp priorBuilt
      exact ⟨nonTerminalNames_eq, terminalNames_eq, tally, cell, startNumber, tallied, cellMade,
        Vocabulary.lookup_eq_ok_iff.mp startFound, cells, structuralWeights, valueWeights,
        configuration⟩
    · cases compiled

end Grammar

end RecursiveBayes
