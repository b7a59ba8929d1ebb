/-
This file computes the probabilities of uniform networks over the rational numbers. In
a uniform network every transition treats all that it can generate alike, and all cells
emit with one probability and split with another. The cells may have any numbers of
values and transitions and may refer to each other in any way; nothing of it can be seen
in the entries, which depend on the length of the phrase alone.

A phrase of a given length is derived by as many shapes of binary trees as the Catalan
number says. Each of them emits once for every symbol and splits once less. That a split
may choose among many values of the children makes no difference: the probabilities of
the pairs sum up to one, and each pair contributes the same.
-/

import RecursiveBayes.Proofs.Network.Recurrence
import RecursiveBayes.Proofs.Network.Total
import RecursiveBayes.Proofs.Trees
import RecursiveBayes.Proofs.Weights.Normalizing

open RecursiveBayes.Action

namespace RecursiveBayes

/-! ### Uniform tables -/

namespace Tensor

variable {rank : Nat}

/-- All entries of the table are one positive number. -/
def IsUniform (tensor : Tensor ℚ rank) : Prop :=
  ∃ weight : ℚ, 0 < weight ∧ ∀ entry ∈ tensor.entries, entry = weight

theorem IsUniform.exists_entry {tensor : Tensor ℚ rank} (uniform : tensor.IsUniform) :
    ∃ weight : ℚ, 0 < weight ∧ ∀ row parent, row < tensor.rows → parent < tensor.parents →
      tensor.entry row parent = weight := by
  obtain ⟨weight, positive, same⟩ := uniform
  refine ⟨weight, positive, fun row parent rowLt parentLt => ?_⟩
  have inside : row * tensor.parents + parent < tensor.entries.size := by
    rw [tensor.size_entries]
    exact place_lt rowLt parentLt
  rw [entry, if_pos parentLt, Array.getD_eq_getD_getElem?, Array.getElem?_eq_getElem inside,
    Option.getD_some]
  exact same _ (Array.getElem_mem inside)

end Tensor

namespace ConditionalTable

variable {rank : Nat} (table : ConditionalTable ℚ rank)

/-- In a uniform table all outcomes have the same probability. -/
theorem entry_eq_of_uniform (uniform : table.weights.IsUniform) {row parent : Nat}
    (rowLt : row < table.weights.rows) (parentLt : parent < table.parents) :
    table.probabilities.entry row parent = 1 / table.weights.rows := by
  obtain ⟨weight, positive, same⟩ := uniform.exists_entry
  have total : ∑ other ∈ Finset.range table.weights.rows, table.weights.entry other parent =
      table.weights.rows * weight := by
    rw [Finset.sum_congr rfl fun other member => same other parent (Finset.mem_range.mp member)
      parentLt, Finset.sum_const, Finset.card_range, nsmul_eq_mul]
  rw [table.entry_eq_div, total, same row parent rowLt parentLt,
    div_mul_cancel_right₀ positive.ne', one_div]

theorem sum_entry_of_uniform (uniform : table.weights.IsUniform) {parent : Nat}
    (parentLt : parent < table.parents) :
    ∑ row ∈ Finset.range table.weights.rows, table.probabilities.entry row parent = 1 := by
  have rowsPos : (table.weights.rows : ℚ) ≠ 0 :=
    Nat.cast_ne_zero.mpr (Tensor.isEmpty_eq_false_iff.mp table.weights_nonempty).1.ne'
  rw [Finset.sum_congr rfl fun row member =>
      table.entry_eq_of_uniform uniform (Finset.mem_range.mp member) parentLt,
    Finset.sum_const, Finset.card_range, nsmul_eq_mul, mul_one_div_cancel rowsPos]

end ConditionalTable

/-! ### Catalan numbers -/

/-- The probability of a derivation of a given length: all shapes of trees, in which every symbol
is emitted and chosen among the symbols, and every inner node is a split. -/
def catalanLevel (symbolCount : Nat) (emit split : ℚ) (length : Nat) : ℚ :=
  catalan (length - 1) * emit ^ length * split ^ (length - 1) / symbolCount ^ length

theorem catalanLevel_one (symbolCount : Nat) (emit split : ℚ) :
    catalanLevel symbolCount emit split 1 = emit * (1 / symbolCount) := by
  simp [catalanLevel, div_eq_mul_inv]

/-- The recurrence of the Catalan numbers, as a sum over the split points of a phrase. -/
theorem catalan_eq_sum_Ico {length : Nat} (splits : 2 ≤ length) :
    catalan (length - 1) =
      ∑ point ∈ Finset.Ico 1 length, catalan (point - 1) * catalan (length - point - 1) := by
  obtain ⟨fewer, rfl⟩ := Nat.exists_eq_add_of_le' splits
  rw [show fewer + 2 - 1 = fewer + 1 by omega, catalan_succ',
    Finset.Nat.sum_antidiagonal_eq_sum_range_succ fun left right => catalan left * catalan right,
    Finset.sum_Ico_eq_sum_range]
  refine Finset.sum_congr rfl fun point _ => ?_
  rw [show 1 + point - 1 = point by omega,
    show fewer + 2 - (1 + point) - 1 = fewer - point by omega]

/-- A longer derivation splits, and its two parts are derived independently. -/
theorem catalanLevel_of_split (symbolCount : Nat) (emit split : ℚ) {length : Nat}
    (splits : 2 ≤ length) :
    catalanLevel symbolCount emit split length =
      split * ∑ point ∈ Finset.Ico 1 length,
        catalanLevel symbolCount emit split point *
          catalanLevel symbolCount emit split (length - point) := by
  have term : ∀ point ∈ Finset.Ico 1 length,
      catalanLevel symbolCount emit split point *
          catalanLevel symbolCount emit split (length - point) =
        (catalan (point - 1) * catalan (length - point - 1) : ℕ) *
          (emit ^ length * split ^ (length - 2) / symbolCount ^ length) := by
    intro point inside
    obtain ⟨first, before⟩ := Finset.mem_Ico.mp inside
    have emits : emit ^ point * emit ^ (length - point) = emit ^ length := by
      rw [← pow_add, Nat.add_sub_of_le (Nat.le_of_lt before)]
    have symbols : (symbolCount : ℚ) ^ point * symbolCount ^ (length - point) =
        symbolCount ^ length := by
      rw [← pow_add, Nat.add_sub_of_le (Nat.le_of_lt before)]
    have nodes : split ^ (point - 1) * split ^ (length - point - 1) = split ^ (length - 2) := by
      rw [← pow_add, show point - 1 + (length - point - 1) = length - 2 by omega]
    rw [catalanLevel, catalanLevel, div_mul_div_comm, symbols, ← emits, ← nodes, Nat.cast_mul]
    ring
  have root : split ^ (length - 1) = split * split ^ (length - 2) := by
    rw [← pow_succ', show length - 2 + 1 = length - 1 by omega]
  rw [Finset.sum_congr rfl term, ← Finset.sum_mul, ← Nat.cast_sum, ← catalan_eq_sum_Ico splits,
    catalanLevel, root]
  ring

/-! ### Uniform networks -/

/-- The probability that a cell chooses a transition of a kind. -/
def Cell.chance (cell : Cell ℚ) (kind : Transition ℚ → Bool) : ℚ :=
  ∑ choice : Fin cell.choices.length,
    if kind (cell.choices.get choice).1 then (cell.choices.get choice).2 else 0

/-- What only the transitions of a kind contribute, all of them the same. -/
theorem Cell.sum_choices_of_kind (cell : Cell ℚ) {kind : Transition ℚ → Bool}
    {mass : Transition ℚ → ℚ} {common : ℚ}
    (masses : ∀ transition ∈ cell.transitions,
      mass transition = if kind transition then common else 0) :
    ∑ choice : Fin cell.choices.length,
        (cell.choices.get choice).2 * mass (cell.choices.get choice).1 =
      cell.chance kind * common := by
  rw [chance, Finset.sum_mul]
  refine Finset.sum_congr rfl fun choice _ => ?_
  have member : cell.choices.get choice ∈ cell.choices := List.get_mem _ choice
  rw [masses _ (List.of_mem_zip member).1]
  split <;> simp

/-- All transitions treat alike what they generate, and all cells emit and split with the same
probabilities. -/
structure Network.IsUniform (network : Network ℚ) (symbolCount : Nat) (emit split : ℚ) : Prop where
  terminal : ∀ cell ∈ network.cells, ∀ transition, .terminal transition ∈ cell.transitions →
    transition.terminalCardinality = symbolCount ∧ transition.table.weights.IsUniform
  binary : ∀ cell ∈ network.cells, ∀ transition, .binary transition ∈ cell.transitions →
    transition.table.weights.IsUniform
  emits : ∀ cell ∈ network.cells, cell.chance Transition.isTerminal = emit
  splits : ∀ cell ∈ network.cells,
    cell.chance (fun transition => !transition.isTerminal) = split

namespace Network

variable {network : Network ℚ} {symbolCount : Nat} {emit split : ℚ}

/-- All observations are symbols below a number. -/
def KnownBelow (symbolCount : Nat) (phrase : Phrase) : Prop :=
  ∀ observation ∈ phrase, ∃ symbol, symbol < symbolCount ∧ observation = some symbol

/-- A transition that emits contributes to a known symbol its share, and one that splits
nothing. -/
theorem IsUniform.contribution_of_single (uniform : network.IsUniform symbolCount emit split)
    {index symbol value : Nat} {cell : Cell ℚ} (found : network.cells[index]? = some cell)
    (valueLt : value < cell.cardinality) (known : symbol < symbolCount) :
    ∀ transition ∈ cell.transitions, network.contribution index [some symbol] value transition =
      if transition.isTerminal then 1 / (symbolCount : ℚ) else 0 := by
  intro transition member
  cases transition with
  | terminal transition =>
    obtain ⟨symbols, table⟩ := uniform.terminal cell (List.mem_of_getElem? found) transition member
    have parents : transition.parentCardinality = cell.cardinality := cell.parents_eq _ member
    have rows : transition.table.weights.rows = symbolCount := transition.rows_eq.trans symbols
    have symbolLt : symbol < transition.table.weights.rows := rows ▸ known
    have entry := transition.table.entry_eq_of_uniform table symbolLt
      (Nat.lt_of_lt_of_eq valueLt parents.symm)
    rw [contribution, TerminalTransition.observed, if_pos (symbols ▸ known),
      TerminalTransition.probability, entry, rows]
    rfl
  | binary transition => rfl

/-- A transition that splits contributes to a longer phrase the products of the entries of all its
parts, since the probabilities of the pairs of values sum up to one. -/
theorem IsUniform.contribution_of_longer (uniform : network.IsUniform symbolCount emit split)
    {index value : Nat} {cell : Cell ℚ} (found : network.cells[index]? = some cell)
    (valueLt : value < cell.cardinality) {phrase : Phrase} (longer : 2 ≤ phrase.length)
    {left right : Nat → ℚ}
    (entries : ∀ child childCell, network.cells[child]? = some childCell →
      ∀ point ∈ Finset.Ico 1 phrase.length, ∀ other, other < childCell.cardinality →
        network.insideEntry child (phrase.take point) other = left point ∧
        network.insideEntry child (phrase.drop point) other = right point) :
    ∀ transition ∈ cell.transitions, network.contribution index phrase value transition =
      if !transition.isTerminal then
        ∑ point ∈ Finset.Ico 1 phrase.length, left point * right point
      else 0 := by
  intro transition member
  cases transition with
  | terminal transition =>
    match phrase with
    | first :: second :: rest => rfl
  | binary transition =>
    obtain ⟨⟨leftCell, foundLeft, leftFits⟩, rightCell, foundRight, rightFits⟩ :=
      network.exists_children found member
    have parents : transition.parentCardinality = cell.cardinality := cell.parents_eq _ member
    have pairs := transition.table.sum_entry_of_uniform
      (uniform.binary cell (List.mem_of_getElem? found) transition member)
      (Nat.lt_of_lt_of_eq valueLt parents.symm)
    rw [transition.rows_eq, ValueVector.sum_range_mul] at pairs
    refine Finset.sum_congr rfl fun point inside => ?_
    calc ∑ leftValue ∈ Finset.range transition.leftCardinality,
          ∑ rightValue ∈ Finset.range transition.rightCardinality,
            transition.probability leftValue rightValue value *
              (network.insideEntry (transition.leftIndex index) (phrase.take point) leftValue *
                network.insideEntry (transition.rightIndex index) (phrase.drop point) rightValue)
        = ∑ leftValue ∈ Finset.range transition.leftCardinality,
          ∑ rightValue ∈ Finset.range transition.rightCardinality,
            transition.probability leftValue rightValue value * (left point * right point) := by
          refine Finset.sum_congr rfl fun leftValue leftMember =>
            Finset.sum_congr rfl fun rightValue rightMember => ?_
          rw [Finset.mem_range, ← leftFits] at leftMember
          rw [Finset.mem_range, ← rightFits] at rightMember
          rw [(entries _ _ foundLeft point inside leftValue leftMember).1,
            (entries _ _ foundRight point inside rightValue rightMember).2]
      _ = left point * right point := by
          simp only [← Finset.sum_mul]
          exact (congrArg (· * _) pairs).trans (one_mul _)

/-- The entries of a uniform network for known symbols depend on the length only. -/
theorem IsUniform.insideEntry_eq (uniform : network.IsUniform symbolCount emit split)
    {index value : Nat} {cell : Cell ℚ} (found : network.cells[index]? = some cell)
    (valueLt : value < cell.cardinality) {phrase : Phrase} (nonempty : phrase ≠ [])
    (known : KnownBelow symbolCount phrase) :
    network.insideEntry index phrase value =
      catalanLevel symbolCount emit split phrase.length := by
  -- By induction on the length of the phrase, for all cells and their values at once.
  induction lengthIs : phrase.length using Nat.strong_induction_on
    generalizing index value cell phrase with
  | _ length inductionHypothesis =>
    subst lengthIs
    have member := List.mem_of_getElem? found
    rw [insideEntry_eq_sum found valueLt]
    by_cases longer : 2 ≤ phrase.length
    · rw [cell.sum_choices_of_kind (uniform.contribution_of_longer found valueLt longer
          fun child childCell foundChild point inside other otherLt => ?_),
        uniform.splits cell member, ← catalanLevel_of_split symbolCount emit split longer]
      obtain ⟨first, before⟩ := Finset.mem_Ico.mp inside
      have shortLeft : (phrase.take point).length = point := by
        rw [List.length_take, Nat.min_eq_left (Nat.le_of_lt before)]
      have shortRight : (phrase.drop point).length = phrase.length - point := List.length_drop
      constructor
      · refine (inductionHypothesis _ (by omega) foundChild otherLt
          (List.length_pos_iff.mp (by omega)) (fun observation here => ?_) rfl).trans
            (congrArg _ shortLeft)
        exact known observation (List.mem_of_mem_take here)
      · refine (inductionHypothesis _ (by omega) foundChild otherLt
          (List.length_pos_iff.mp (by omega)) (fun observation here => ?_) rfl).trans
            (congrArg _ shortRight)
        exact known observation (List.mem_of_mem_drop here)
    · match phrase, nonempty with
      | [observation], _ =>
        obtain ⟨symbol, symbolLt, rfl⟩ := known observation (List.mem_singleton.mpr rfl)
        rw [cell.sum_choices_of_kind (uniform.contribution_of_single found valueLt symbolLt),
          uniform.emits cell member, List.length_singleton, catalanLevel_one]
      | first :: second :: rest, _ => exact absurd (by simp) longer

/-- The whole vector of a cell holds one number. -/
theorem IsUniform.insideVector_eq (uniform : network.IsUniform symbolCount emit split)
    {index : Nat} {cell : Cell ℚ} (found : network.cells[index]? = some cell) {phrase : Phrase}
    (nonempty : phrase ≠ []) (known : KnownBelow symbolCount phrase) :
    network.insideVector index phrase =
      List.replicate cell.cardinality (catalanLevel symbolCount emit split phrase.length) := by
  refine List.eq_replicate_iff.mpr ⟨network.length_insideVector found phrase, fun entry member => ?_⟩
  obtain ⟨value, inside, rfl⟩ := List.mem_iff_getElem.mp member
  rw [← List.getD_eq_getElem _ 0 inside]
  exact uniform.insideEntry_eq found (network.length_insideVector found phrase ▸ inside) nonempty
    known

/-! ### Roots -/

/-- The choice of the root is complete: some cell has a weight, and so has some value of each. -/
def HasRoots (network : Network ℚ) : Prop :=
  0 < network.prior.structuralWeights.total ∧
    ∀ weights ∈ network.prior.valueWeights, 0 < ValueVector.total weights

theorem HasRoots.sum_rootProbability (roots : network.HasRoots) :
    ∑ index ∈ Finset.range network.cellCount, network.rootProbability index = 1 := by
  rw [← network.cellCount_prior, ← network.prior.length_structural]
  exact (ValueVector.total_eq_sum _).symm.trans
    (ValueVector.total_normalized_of_pos _ roots.1)

theorem HasRoots.sum_rootValueProbability (roots : network.HasRoots) {index : Nat} {cell : Cell ℚ}
    (found : network.cells[index]? = some cell) :
    ∑ value ∈ Finset.range (network.cardinalityAt index),
      network.rootValueProbability index value = 1 := by
  obtain ⟨weights, foundWeights, lengths, _⟩ := network.sound_cell found
  have here : network.prior.valueWeights.getD index [] = weights := by
    rw [List.getD_eq_getElem?_getD, foundWeights, Option.getD_some]
  simp only [rootValueProbability_eq, here]
  rw [cardinalityAt_eq found, ← lengths, ← ValueVector.length_normalized]
  exact (ValueVector.total_eq_sum _).symm.trans
    (ValueVector.total_normalized_of_pos _ (roots.2 weights (List.mem_of_getElem? foundWeights)))

/-- Where all entries for a phrase are the same, its probability is this number. -/
theorem HasRoots.likelihood_eq (roots : network.HasRoots) {phrase : Phrase} {level : ℚ}
    (entries : ∀ index cell value, network.cells[index]? = some cell → value < cell.cardinality →
      network.insideEntry index phrase value = level) :
    network.likelihood phrase = level := by
  have ofCell : ∀ index ∈ Finset.range network.cellCount,
      ∑ value ∈ Finset.range (network.cardinalityAt index),
        network.rootValueProbability index value * network.insideEntry index phrase value =
          level := by
    intro index member
    have found := List.getElem?_eq_getElem (l := network.cells) (Finset.mem_range.mp member)
    have same : ∀ value ∈ Finset.range (network.cardinalityAt index),
        network.insideEntry index phrase value = level := by
      intro value inside
      rw [Finset.mem_range, cardinalityAt_eq found] at inside
      exact entries index _ value found inside
    rw [Finset.sum_congr rfl fun value inside => congrArg _ (same value inside),
      ← Finset.sum_mul, roots.sum_rootValueProbability found, one_mul]
  rw [likelihood_eq_sum, Finset.sum_congr rfl fun index member => congrArg _ (ofCell index member),
    ← Finset.sum_mul, roots.sum_rootProbability, one_mul]

/-! ### The pass -/

/-- The pass of a uniform network over known symbols follows the Catalan numbers: every component of
every vector for a span is the same number, which depends on the length of the span only, and
so is the probability of the sequence if there are roots. -/
theorem inside_follows_catalan (uniform : network.IsUniform symbolCount emit split)
    {symbols : List Nat} (nonempty : symbols ≠ []) (known : ∀ symbol ∈ symbols, symbol < symbolCount)
    (accepted : network.accepts symbols.length = true) (fits : network.Fits symbols.length)
    (before : Workspace ℚ) :
    ∃ marginal after, runOn (network.inside symbols) before = (.ok marginal, after) ∧
      (∀ index cell span, network.cells[index]? = some cell → span.Within symbols.length →
        after.chart.get? index span = some (List.replicate cell.cardinality
          (catalanLevel symbolCount emit split (span.stop - span.start)))) ∧
      (network.HasRoots → marginal = catalanLevel symbolCount emit split symbols.length) := by
  have size : (TerminalChart.ofSymbols symbols).length = symbols.length := List.length_map _
  have knownHere : KnownBelow symbolCount (TerminalChart.ofSymbols symbols).symbols := by
    intro observation member
    obtain ⟨symbol, here, rfl⟩ := List.mem_map.mp member
    exact ⟨symbol, known symbol here, rfl⟩
  have positive : (TerminalChart.ofSymbols symbols).length ≠ 0 := by
    rw [size]
    exact (List.length_pos_iff.mpr nonempty).ne'
  obtain ⟨after, ran, agrees, holds⟩ := runOn_insideObserved (size ▸ accepted) (size ▸ fits) positive
  refine ⟨_, after, ran before, fun index cell span found within => ?_, fun roots => ?_⟩
  · rw [← size] at within
    have length := TerminalChart.length_phrase within
    have inside : (TerminalChart.ofSymbols symbols).phrase span ≠ [] := by
      refine List.length_pos_iff.mp ?_
      rw [length]
      exact Nat.sub_pos_of_lt within.1
    obtain ⟨indexLt, _⟩ := List.getElem?_eq_some_iff.mp found
    rw [agrees.chart.get?_of_holds ((holds index span).mpr ⟨indexLt, within⟩),
      uniform.insideVector_eq found inside fun observation member =>
        knownHere observation (List.mem_of_mem_drop (List.mem_of_mem_take member)), length]
  · refine roots.likelihood_eq fun index cell value found valueLt => ?_
    rw [uniform.insideEntry_eq found valueLt (List.length_pos_iff.mp (Nat.pos_of_ne_zero positive))
      knownHere]
    exact congrArg _ size

/-- The table that gives every outcome of every parent value the same weight. -/
def evenTable {rank : Nat} (outcomes : Vector Nat rank) (parents : Nat) (weight : ℚ)
    (nonempty : 0 < Sizes.product outcomes.toList ∧ 0 < parents) (positive : 0 < weight) :
    ConditionalTable ℚ rank :=
  have sound : (Tensor.generate outcomes parents fun _ _ => weight).Sound :=
    Tensor.sound_generate nonempty.1 nonempty.2 fun _ _ => decide_eq_true positive.le
  ⟨.generate outcomes parents fun _ _ => weight, _, sound.valid, sound.nonempty, rfl⟩

theorem isUniform_evenTable {rank : Nat} (outcomes : Vector Nat rank) (parents : Nat) (weight : ℚ)
    (nonempty : 0 < Sizes.product outcomes.toList ∧ 0 < parents) (positive : 0 < weight) :
    (evenTable outcomes parents weight nonempty positive).weights.IsUniform := by
  refine ⟨weight, positive, fun entry member => ?_⟩
  obtain ⟨_, rfl⟩ := Array.mem_ofFn.mp member
  rfl

/-- Two cells with four and with three values that refer to each other. Both emit one of five symbols
with probability one third, and the second one splits in two ways. -/
def evenPair : Network ℚ where
  cells :=
    [{ domain := ⟨4, Nat.succ_pos 3⟩
       transitions :=
        [.terminal ⟨evenTable #v[5] 4 1 (by decide) (by decide)⟩,
         .binary ⟨evenTable #v[3, 4] 4 3 (by decide) (by decide), some (1, 0)⟩]
       weights := [1, 2]
       weights_valid := by decide +kernel
       length_weights := rfl
       parents_eq := by decide },
     { domain := ⟨3, Nat.succ_pos 2⟩
       transitions :=
        [.binary ⟨evenTable #v[3, 3] 3 7 (by decide) (by decide), none⟩,
         .terminal ⟨evenTable #v[5] 3 5 (by decide) (by decide)⟩,
         .binary ⟨evenTable #v[4, 4] 3 1 (by decide) (by decide), some (0, 0)⟩]
       weights := [3, 2, 1]
       weights_valid := by decide +kernel
       length_weights := rfl
       parents_eq := by decide }]
  prior :=
    { structuralWeights := [1, 3]
      valueWeights := [[0, 2, 1, 0], [5, 0, 1]]
      structuralWeights_valid := by decide +kernel
      length_structuralWeights := rfl
      valueWeights_valid := by decide +kernel
      valueWeights_nonempty := by decide }
  configuration := {}
  sound := by decide +kernel

theorem isUniform_evenPair : evenPair.IsUniform 5 (1 / 3) (2 / 3) where
  terminal := by
    intro cell member transition inside
    simp only [evenPair, List.mem_cons, List.not_mem_nil, or_false] at member
    rcases member with rfl | rfl <;>
      simp only [List.mem_cons, List.not_mem_nil, or_false, reduceCtorEq, false_or,
        Transition.terminal.injEq] at inside <;> subst inside
    · exact ⟨rfl, isUniform_evenTable _ _ _ (by decide) (by decide)⟩
    · exact ⟨rfl, isUniform_evenTable _ _ _ (by decide) (by decide)⟩
  binary := by
    intro cell member transition inside
    simp only [evenPair, List.mem_cons, List.not_mem_nil, or_false] at member
    rcases member with rfl | rfl
    · simp only [List.mem_cons, List.not_mem_nil, or_false, reduceCtorEq, false_or,
        Transition.binary.injEq] at inside
      subst inside
      exact isUniform_evenTable _ _ _ (by decide) (by decide)
    · simp only [List.mem_cons, List.not_mem_nil, or_false, reduceCtorEq, false_or,
        Transition.binary.injEq] at inside
      rcases inside with rfl | rfl <;> exact isUniform_evenTable _ _ _ (by decide) (by decide)
  emits := by decide +kernel
  splits := by decide +kernel

/-- Three symbols are derived from the two cells by two shapes of trees, each with three emissions
and two splits. -/
theorem evenPair_follows_catalan :
    evenPair.IsUniform 5 (1 / 3) (2 / 3) ∧ evenPair.accepts 3 = true ∧ evenPair.Fits 3 ∧
      evenPair.HasRoots ∧
      ∃ marginal after, runOn (evenPair.inside [1, 0, 4]) .initial = (.ok marginal, after) ∧
        after.chart.get? 1 ⟨1, 3⟩ = some [2 / 675, 2 / 675, 2 / 675] ∧ marginal = 8 / 30375 := by
  have memory : evenPair.FitsMemory 3 := by
    unfold FitsMemory
    decide
  have fits : evenPair.Fits 3 := (evenPair.fits_iff 3).mpr ⟨memory, by decide, by decide, by decide⟩
  have roots : evenPair.HasRoots := ⟨by decide +kernel, by decide +kernel⟩
  have nonempty : ([1, 0, 4] : List Nat) ≠ [] := by decide
  obtain ⟨marginal, after, ran, entries, returned⟩ := inside_follows_catalan isUniform_evenPair
    nonempty (by decide) (by decide) fits .initial
  have pair := entries 1 _ ⟨1, 3⟩ rfl (by decide)
  have two : catalanLevel 5 (1 / 3) (2 / 3) 2 = 2 / 675 := by
    norm_num [catalanLevel]
  have three : catalanLevel 5 (1 / 3) (2 / 3) 3 = 8 / 30375 := by
    norm_num [catalanLevel, catalan_two]
  exact ⟨isUniform_evenPair, by decide, fits, roots, marginal, after, ran,
    two ▸ pair, (returned roots).trans three⟩

end Network

end RecursiveBayes
