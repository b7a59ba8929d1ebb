/-
This file proves that the compilation of grammars keeps the meaning of the rules: over
the rational numbers, a compiled grammar returns for every sentence the sum of the
weights of its parse trees, where the weight of a tree is the product of the
probabilities of its rules.

The rules speak of names, the network of numbers. Both sides obey one recurrence over
the length of the sentence, and at each step the entries of the two normalized tables
are the shares of the rules with the names in question.
-/

import RecursiveBayes.Grammar.Session
import RecursiveBayes.Proofs.Grammar.Compiled
import RecursiveBayes.Proofs.Grammar.ParseTree
import RecursiveBayes.Proofs.Network.Recurrence
import RecursiveBayes.Proofs.Network.Total

open RecursiveBayes.Action

namespace RecursiveBayes

namespace Grammar

/-- There is room for a sentence: the table of a single cell with a value for each non-terminal fits
into memory, and the number of split points is a word. -/
def HasRoomFor (nonTerminals length : Nat) : Prop :=
  Memory.numberSize * ((length + 1) * (length + 1) * nonTerminals) ≤ Memory.largestObject ∧
    (length - 1) * length * (length + 1) / 6 < Word.limit

instance (nonTerminals length : Nat) : Decidable (HasRoomFor nonTerminals length) :=
  inferInstanceAs (Decidable (_ ∧ _))

/-- What some rules say to be the probability of rewriting a symbol to a sentence: the sum, over
all parse trees with declared symbols, of the product of the probabilities of the productions. -/
def meaning (nonTerminalNames terminalNames : List String) (rules : List (WeightedRule ℚ))
    (root : String) (words : List String) : ℚ :=
  ∑ tree ∈ parses nonTerminalNames.toFinset root words,
    tree.weight (probability nonTerminalNames.toFinset terminalNames.toFinset rules)

/-- The words that a span of a sentence covers. -/
def wordsIn (words : List String) (span : Span) : List String :=
  (words.drop span.start).take (span.stop - span.start)

/-- A sentence is run on the workspace of the network. -/
theorem runOn_inside_eq {α : Type} [Scalar α] (grammar : Grammar α) (words : List String)
    (before : GrammarState α) :
    runOn (grammar.inside words) before =
      ((runOn (grammar.network.insideObserved (grammar.observe words)) before.workspace).1,
        ⟨words, (runOn (grammar.network.insideObserved (grammar.observe words))
          before.workspace).2⟩) :=
  rfl

/-! ### Entries of the tables -/

namespace Tallies

variable {nonTerminals terminals : Vocabulary} {rules : List (WeightedRule ℚ)} {tally : Tally ℚ}
  {name : String} {number : Nat}

/-- A word that is not declared has no rules. -/
theorem ruleWeight_unknown (tallies : Tallies nonTerminals terminals rules tally) (lhs : String)
    {word : String} (unknown : terminals.get? word = none) :
    ruleWeight rules (.unary lhs word) = 0 := by
  by_contra nonzero
  obtain ⟨rule, member, production⟩ := exists_rule_of_ruleWeight_ne_zero nonzero
  have declared := tallies.declared rule member
  rw [production] at declared
  obtain ⟨row, found⟩ := Vocabulary.exists_get?_of_mem (List.mem_toFinset.mp declared.2)
  cases unknown.symm.trans found

/-- The probability of emitting a word is the share of its rule, and zero if it is unknown. -/
theorem observed_eq (tallies : Tallies nonTerminals terminals rules tally)
    {transition : TerminalTransition ℚ} (weights : transition.table.weights = tally.unary)
    (found : nonTerminals.get? name = some number) (word : String) :
    transition.observed (terminals.get? word) number =
      ruleWeight rules (.unary name word) /
        ∑ other ∈ terminals.names.toFinset, ruleWeight rules (.unary name other) := by
  cases foundWord : terminals.get? word with
  | none =>
    rw [tallies.ruleWeight_unknown name foundWord, zero_div]
    rfl
  | some row =>
    have rows : transition.table.weights.rows = terminals.size := by
      rw [weights, tallies.rows_unary]
    have known : row < transition.terminalCardinality := by
      rw [← transition.rows_eq, rows]
      exact Vocabulary.lt_size_of_get? foundWord
    have total : ∑ other ∈ Finset.range terminals.size, tally.unary.entry other number =
        ∑ other ∈ terminals.names.toFinset, ruleWeight rules (.unary name other) :=
      terminals.sum_range_eq fun other otherRow foundOther =>
        tallies.unaryEntry name other number otherRow found foundOther
    rw [TerminalTransition.observed]
    simp only [if_pos known]
    rw [TerminalTransition.probability, transition.table.entry_eq_div, rows, weights, total,
      tallies.unaryEntry name word number row found foundWord]

/-- The axes of the transition for pairs are the non-terminals. -/
theorem cardinalities_eq (tallies : Tallies nonTerminals terminals rules tally)
    {transition : BinaryTransition ℚ} (weights : transition.table.weights = tally.binary) :
    transition.leftCardinality = nonTerminals.size ∧
      transition.rightCardinality = nonTerminals.size := by
  have outcomes : transition.table.outcomes = #v[nonTerminals.size, nonTerminals.size] := by
    rw [ConditionalTable.outcomes, weights, tallies.binaryOutcomes]
  constructor
  · rw [BinaryTransition.leftCardinality, outcomes]
    rfl
  · rw [BinaryTransition.rightCardinality, outcomes]
    rfl

/-- The probability of splitting into two symbols is the share of their rule. -/
theorem probability_eq (tallies : Tallies nonTerminals terminals rules tally)
    {transition : BinaryTransition ℚ} (weights : transition.table.weights = tally.binary)
    (found : nonTerminals.get? name = some number) {left right : String}
    {leftChild rightChild : Nat} (foundLeft : nonTerminals.get? left = some leftChild)
    (foundRight : nonTerminals.get? right = some rightChild) :
    transition.probability leftChild rightChild number =
      ruleWeight rules (.binary name left right) /
        ∑ otherLeft ∈ nonTerminals.names.toFinset, ∑ otherRight ∈ nonTerminals.names.toFinset,
          ruleWeight rules (.binary name otherLeft otherRight) := by
  have total : ∑ row ∈ Finset.range (nonTerminals.size * nonTerminals.size),
      tally.binary.entry row number =
        ∑ otherLeft ∈ nonTerminals.names.toFinset, ∑ otherRight ∈ nonTerminals.names.toFinset,
          ruleWeight rules (.binary name otherLeft otherRight) := by
    rw [ValueVector.sum_range_mul]
    refine nonTerminals.sum_range_eq fun otherLeft _ foundOtherLeft => ?_
    exact nonTerminals.sum_range_eq fun otherRight _ foundOtherRight =>
      tallies.binaryEntry name otherLeft otherRight number _ _ found foundOtherLeft foundOtherRight
  rw [BinaryTransition.probability, (tallies.cardinalities_eq weights).2,
    transition.table.entry_eq_div, weights, tallies.rows_binary, total,
    tallies.binaryEntry name left right number leftChild rightChild found foundLeft foundRight]

end Tallies

/-! ### One value -/

theorem getD_oneHot {size place : Nat} (inside : place < size) (other : Nat) :
    (oneHot size place : ValueVector ℚ).getD other 0 = if other = place then 1 else 0 := by
  have length : (ValueVector.zeros size : ValueVector ℚ).length = size :=
    ValueVector.length_zeros size
  rw [oneHot, List.getD_eq_getElem?_getD]
  by_cases same : other = place
  · rw [same, List.getElem?_set_self (length.symm ▸ inside), if_pos rfl]
    rfl
  · rw [List.getElem?_set_ne (Ne.symm same), ← List.getD_eq_getElem?_getD,
      ValueVector.getD_zeros, if_neg same]

theorem total_oneHot {size place : Nat} (inside : place < size) :
    (oneHot size place : ValueVector ℚ).total = 1 := by
  rw [ValueVector.total_eq_sum, length_oneHot]
  simp only [getD_oneHot inside]
  rw [Finset.sum_ite_eq', if_pos (Finset.mem_range.mpr inside)]

/-! ### Entries of the chart -/

namespace Compiled

variable {rules : List (WeightedRule ℚ)} {start : String} {grammar : Grammar ℚ} {tally : Tally ℚ}
  {cell : Cell ℚ} {startNumber : Nat} {name : String} {number : Nat}

theorem cell_found (compiled : Compiled rules start grammar tally cell startNumber) :
    grammar.network.cells[0]? = some cell := by
  rw [compiled.cells]
  rfl

theorem cardinality_cell (compiled : Compiled rules start grammar tally cell startNumber) :
    cell.cardinality = grammar.nonTerminals.size :=
  (Tally.of_cell_eq_ok compiled.cellMade).1

/-- The transition for words contributes the share of the rule for a single word. -/
theorem contribution_words (compiled : Compiled rules start grammar tally cell startNumber)
    (found : grammar.nonTerminals.get? name = some number) (words : List String)
    {transition : TerminalTransition ℚ} (weights : transition.table.weights = tally.unary) :
    grammar.network.contribution 0 (words.map grammar.terminals.get?) number
        (.terminal transition) =
      ParseTree.leafWeight (fun production => ruleWeight rules production /
        ∑ other ∈ grammar.terminals.names.toFinset, ruleWeight rules (.unary name other))
        name words := by
  match words with
  | [] => rfl
  | [word] => exact compiled.tallies.observed_eq weights found word
  | first :: second :: rest => rfl

/-- The transition for pairs contributes the shares of the rules for pairs, if the entries for all
shorter sentences are known. -/
theorem contribution_pairs (compiled : Compiled rules start grammar tally cell startNumber)
    (found : grammar.nonTerminals.get? name = some number) (words : List String)
    {transition : BinaryTransition ℚ} (weights : transition.table.weights = tally.binary)
    (children : transition.children = none) {known : String → List String → ℚ}
    (parts : ∀ child childNumber part, grammar.nonTerminals.get? child = some childNumber →
      part.length < words.length →
        grammar.network.insideEntry 0 (part.map grammar.terminals.get?) childNumber =
          known child part) :
    grammar.network.contribution 0 (words.map grammar.terminals.get?) number
        (.binary transition) =
      ∑ point ∈ Finset.Ico 1 words.length, ∑ left ∈ grammar.nonTerminals.names.toFinset,
        ∑ right ∈ grammar.nonTerminals.names.toFinset,
          ruleWeight rules (.binary name left right) /
            (∑ otherLeft ∈ grammar.nonTerminals.names.toFinset,
              ∑ otherRight ∈ grammar.nonTerminals.names.toFinset,
                ruleWeight rules (.binary name otherLeft otherRight)) *
            (known left (words.take point) * known right (words.drop point)) := by
  obtain ⟨leftSize, rightSize⟩ := compiled.tallies.cardinalities_eq weights
  have leftIndex : transition.leftIndex 0 = 0 := by rw [BinaryTransition.leftIndex, children]; rfl
  have rightIndex : transition.rightIndex 0 = 0 := by
    rw [BinaryTransition.rightIndex, children]
    rfl
  rw [Network.contribution, List.length_map, leftSize, rightSize, leftIndex, rightIndex]
  refine Finset.sum_congr rfl fun point inside => ?_
  obtain ⟨leftShort, rightShort⟩ := Trees.length_parts_lt inside
  refine grammar.nonTerminals.sum_range_eq fun left leftChild foundLeft => ?_
  refine grammar.nonTerminals.sum_range_eq fun right rightChild foundRight => ?_
  rw [compiled.tallies.probability_eq weights found foundLeft foundRight, ← List.map_take,
    ← List.map_drop, parts left leftChild _ foundLeft leftShort,
    parts right rightChild _ foundRight rightShort]

/-- The entry of a non-terminal for a sentence is the meaning of the rules. -/
theorem insideEntry_eq (compiled : Compiled rules start grammar tally cell startNumber)
    (found : grammar.nonTerminals.get? name = some number) (words : List String) :
    grammar.network.insideEntry 0 (words.map grammar.terminals.get?) number =
      meaning grammar.nonTerminals.names grammar.terminals.names rules name words := by
  -- By induction on the length of the sentence, for all non-terminals at once.
  induction lengthIs : words.length using Nat.strong_induction_on
    generalizing name number words with
  | _ length inductionHypothesis =>
    subst lengthIs
    have valueLt : number < cell.cardinality := by
      rw [compiled.cardinality_cell]
      exact Vocabulary.lt_size_of_get? found
    have rootMember : name ∈ grammar.nonTerminals.names.toFinset :=
      List.mem_toFinset.mpr (Vocabulary.mem_of_get? found)
    rw [Network.insideEntry_eq_sum compiled.cell_found valueLt,
      compiled.tallies.sum_choices compiled.cellMade
        (grammar.network.contribution 0 (words.map grammar.terminals.get?) number)
        (fun transition => compiled.contribution_words found words)
        (fun transition weights children =>
          compiled.contribution_pairs found words weights children
            fun child childNumber part foundChild short =>
              inductionHypothesis _ short foundChild part rfl)]
    refine Eq.trans (congrArg₂ _ ?_ ?_) (parseWeight_eq rootMember _ words).symm
    · match words with
      | [] => exact mul_zero _
      | [word] => rfl
      | first :: second :: rest => exact mul_zero _
    · simp only [Finset.mul_sum, ← mul_assoc]
      rfl

/-! ### The root -/

theorem rootProbability_eq (compiled : Compiled rules start grammar tally cell startNumber) :
    grammar.network.rootProbability 0 = 1 := by
  rw [Network.rootProbability, Prior.structural, compiled.structuralWeights,
    ValueVector.getD_normalized]
  decide +kernel

/-- The start symbol is the only root. -/
theorem rootValueProbability_eq (compiled : Compiled rules start grammar tally cell startNumber)
    (value : Nat) :
    grammar.network.rootValueProbability 0 value = if value = startNumber then 1 else 0 := by
  have inside := Vocabulary.lt_size_of_get? compiled.startFound
  have here : grammar.network.prior.valueWeights.getD 0 [] =
      oneHot grammar.nonTerminals.size startNumber := by
    rw [compiled.valueWeights]
    rfl
  rw [Network.rootValueProbability_eq, here, ValueVector.getD_normalized, total_oneHot inside,
    getD_oneHot inside, ValueVector.share_eq_div zero_le_one, div_one]

/-- The probability of a sentence is the meaning of the rules for the start symbol. -/
theorem likelihood_eq (compiled : Compiled rules start grammar tally cell startNumber)
    (words : List String) :
    grammar.network.likelihood (words.map grammar.terminals.get?) =
      meaning grammar.nonTerminals.names grammar.terminals.names rules start words := by
  have cells : grammar.network.cellCount = 1 := by
    rw [Network.cellCount, compiled.cells]
    rfl
  have inside := Finset.mem_range.mpr (Vocabulary.lt_size_of_get? compiled.startFound)
  rw [Network.likelihood_eq_sum, cells, Finset.sum_range_one, compiled.rootProbability_eq, one_mul,
    Network.cardinalityAt_eq compiled.cell_found, compiled.cardinality_cell]
  simp only [compiled.rootValueProbability_eq, ite_mul, one_mul, zero_mul]
  rw [Finset.sum_ite_eq', if_pos inside, compiled.insideEntry_eq compiled.startFound]

/-! ### Sentences -/

/-- The network of a grammar has a single cell, so a chart that fits into memory is too small for
any count but that of the split points to be no word. -/
theorem fits_iff (compiled : Compiled rules start grammar tally cell startNumber) {length : Nat} :
    grammar.network.Fits length ↔ HasRoomFor grammar.nonTerminals.size length := by
  have cells : grammar.network.cellCount = 1 := by
    rw [Network.cellCount, compiled.cells]
    rfl
  rw [Network.fits_iff, Network.FitsMemory, compiled.cells, List.forall_mem_singleton,
    compiled.cardinality_cell, cells, Nat.mul_one, Nat.one_mul, Nat.one_mul]
  constructor
  · rintro ⟨memory, _, _, points⟩
    exact ⟨memory, points⟩
  · rintro ⟨memory, points⟩
    have slots : (length + 1) * (length + 1) ≤
        (length + 1) * (length + 1) * grammar.nonTerminals.size :=
      Nat.le_mul_of_pos_right _
        (Nat.zero_lt_of_lt (Vocabulary.lt_size_of_get? compiled.startFound))
    have side : length ≤ (length + 1) * (length + 1) :=
      Nat.le_trans (Nat.le_succ length) (Nat.le_mul_of_pos_right _ (Nat.succ_pos length))
    have half : length * (length + 1) / 2 ≤ (length + 1) * (length + 1) :=
      Nat.le_trans (Nat.div_le_self _ 2) (Nat.mul_le_mul_right _ (Nat.le_succ length))
    have bytes := memory
    rw [Memory.numberSize, Memory.largestObject] at bytes
    refine ⟨memory, ?_, ?_, points⟩ <;> rw [Word.limit] <;> omega

/-- The inside vector for a sentence lists what the rules mean for all non-terminals. -/
theorem insideVector_eq (compiled : Compiled rules start grammar tally cell startNumber)
    (words : List String) :
    grammar.network.insideVector 0 (words.map grammar.terminals.get?) =
      grammar.nonTerminals.names.map fun name =>
        meaning grammar.nonTerminals.names grammar.terminals.names rules name words := by
  have lengths : (grammar.network.insideVector 0 (words.map grammar.terminals.get?)).length =
      grammar.nonTerminals.names.length :=
    (grammar.network.length_insideVector compiled.cell_found _).trans compiled.cardinality_cell
  refine List.ext_getElem (by rw [lengths, List.length_map]) fun number inside namesInside => ?_
  rw [List.length_map] at namesInside
  have found := grammar.nonTerminals.get?_eq_some_iff.mpr (List.getElem?_eq_getElem namesInside)
  rw [List.getElem_map, ← compiled.insideEntry_eq found words, Network.insideEntry,
    List.getD_eq_getElem _ _ inside]

end Compiled

/-! ### The meaning of the rules -/

section Declared

variable {nonTerminals terminals : Finset String} {rules : List (WeightedRule ℚ)}

end Declared

end Grammar

end RecursiveBayes
