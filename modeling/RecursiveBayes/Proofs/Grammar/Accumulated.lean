/-
This file says what the rules of a grammar add up to, whatever the numbers are. A rule
that is accepted adds its weight at the place of its production and nowhere else, so
after all rules there stands, at each place, the total of the rules for one production,
in their order. Both tables can therefore be given in the names of the grammar, without
the numbers that stand for them and without the order in which they were filled.
-/

import RecursiveBayes.Proofs.Grammar.Numbering
import RecursiveBayes.Proofs.Grammar.RuleWeights
import RecursiveBayes.Proofs.Protocol.Running
import RecursiveBayes.Proofs.Transition.Tables

namespace RecursiveBayes

variable {α : Type} [Scalar α]

/-! ### Weights at places -/

namespace Tensor

variable {rank : Nat}

/-- The table with a number added at a place, if there is a place for it. -/
def addAtPlace (tensor : Tensor α rank) (place? : Option (Nat × Nat)) (addend : α) :
    Tensor α rank :=
  match place? with
  | some (row, parent) => tensor.addAt row parent addend
  | none => tensor

/-- A number that is added changes the entry at its place, and no other. -/
theorem entry_addAtPlace {tensor : Tensor α rank} {place? : Option (Nat × Nat)} (addend : α)
    (inside : ∀ row parent, place? = some (row, parent) →
      row < tensor.rows ∧ parent < tensor.parents) (row parent : Nat) :
    (tensor.addAtPlace place? addend).entry row parent =
      if place? = some (row, parent) then tensor.entry row parent + addend
      else tensor.entry row parent := by
  cases place? with
  | none => rfl
  | some place =>
    obtain ⟨otherRow, otherParent⟩ := place
    obtain ⟨rowLt, parentLt⟩ := inside otherRow otherParent rfl
    rw [addAtPlace, tensor.entry_addAt addend rowLt parentLt]
    by_cases same : row = otherRow ∧ parent = otherParent
    · obtain ⟨rfl, rfl⟩ := same
      rw [if_pos ⟨rfl, rfl⟩, if_pos rfl]
    · rw [if_neg same, if_neg]
      rintro ⟨⟩
      exact same ⟨rfl, rfl⟩

theorem axes_addAtPlace (tensor : Tensor α rank) (place? : Option (Nat × Nat)) (addend : α) :
    (tensor.addAtPlace place? addend).outcomes = tensor.outcomes ∧
      (tensor.addAtPlace place? addend).parents = tensor.parents := by
  cases place? <;> exact ⟨rfl, rfl⟩

variable {Item : Type} {place? : Item → Option (Nat × Nat)} {weight : Item → α}

/-- The table with the weights of some items added at their places, one after the other. -/
def addAll (place? : Item → Option (Nat × Nat)) (weight : Item → α) (items : List Item)
    (tensor : Tensor α rank) : Tensor α rank :=
  items.foldl (fun table item => table.addAtPlace (place? item) (weight item)) tensor

theorem axes_addAll (items : List Item) (tensor : Tensor α rank) :
    (tensor.addAll place? weight items).outcomes = tensor.outcomes ∧
      (tensor.addAll place? weight items).parents = tensor.parents := by
  induction items generalizing tensor with
  | nil => exact ⟨rfl, rfl⟩
  | cons item rest inductionHypothesis =>
    obtain ⟨outcomes, parents⟩ := tensor.axes_addAtPlace (place? item) (weight item)
    obtain ⟨restOutcomes, restParents⟩ :=
      inductionHypothesis (tensor.addAtPlace (place? item) (weight item))
    exact ⟨restOutcomes.trans outcomes, restParents.trans parents⟩

/-- A place holds what it held before, increased by the weights of its own items one after the
other. -/
theorem entry_addAll (items : List Item) {tensor : Tensor α rank}
    (inside : ∀ item row parent, place? item = some (row, parent) →
      row < tensor.rows ∧ parent < tensor.parents) (row parent : Nat) :
    (tensor.addAll place? weight items).entry row parent =
      (items.filter fun item => place? item = some (row, parent)).foldl
        (fun sum item => sum + weight item) (tensor.entry row parent) := by
  induction items generalizing tensor with
  | nil => rfl
  | cons item rest inductionHypothesis =>
    obtain ⟨outcomes, parents⟩ := tensor.axes_addAtPlace (place? item) (weight item)
    show ((tensor.addAtPlace (place? item) (weight item)).addAll place? weight rest).entry _ _ = _
    rw [inductionHypothesis (by rwa [rows, outcomes, parents]), entry_addAtPlace _ (inside item),
      List.filter_cons]
    by_cases here : place? item = some (row, parent)
    · rw [if_pos here, if_pos (decide_eq_true here), List.foldl_cons]
    · rw [if_neg here, if_neg (by rwa [decide_eq_true_eq])]

/-- A table that is filled from zeros is the table of the totals at its places. -/
theorem addAll_zeros_eq_generate (items : List Item) {outcomes : Vector Nat rank} {parents : Nat}
    {total : Nat → Nat → α}
    (inside : ∀ item row parent, place? item = some (row, parent) →
      row < Sizes.product outcomes.toList ∧ parent < parents)
    (totals : ∀ row parent, row < Sizes.product outcomes.toList → parent < parents →
      (items.filter fun item => place? item = some (row, parent)).foldl
        (fun sum item => sum + weight item) 0 = total row parent) :
    (zeros outcomes parents : Tensor α rank).addAll place? weight items =
      generate outcomes parents total := by
  obtain ⟨sameOutcomes, sameParents⟩ :=
    axes_addAll items (zeros outcomes parents : Tensor α rank)
  refine ext_entry sameOutcomes sameParents fun row parent rowLt parentLt => ?_
  rw [rows, sameOutcomes] at rowLt
  rw [sameParents] at parentLt
  rw [entry_addAll items inside, entry_zeros, totals row parent rowLt parentLt,
    entry_generate outcomes parents total rowLt parentLt]

end Tensor

namespace Grammar

/-! ### The tables in names -/

/-- The total of the weights of all rules for a production, in the order of the rules. -/
def occurrenceTotal (rules : List (WeightedRule α)) (production : Production) : α :=
  ValueVector.runningTotal
    ((rules.filter fun rule => rule.production = production).map WeightedRule.weight)

/-- The weights of rewriting the non-terminals to the terminals. -/
def wordTable (nonTerminals terminals : List String) (rules : List (WeightedRule α)) :
    Tensor α 1 :=
  .generate #v[terminals.length] nonTerminals.length fun row parent =>
    occurrenceTotal rules (.unary (nonTerminals.getD parent "") (terminals.getD row ""))

/-- The weights of rewriting the non-terminals to pairs of non-terminals. -/
def pairTable (nonTerminals : List String) (rules : List (WeightedRule α)) : Tensor α 2 :=
  .ofPairs nonTerminals.length nonTerminals.length nonTerminals.length fun left right parent =>
    occurrenceTotal rules (.binary (nonTerminals.getD parent "") (nonTerminals.getD left "")
      (nonTerminals.getD right ""))

/-! ### One rule -/

variable {nonTerminals terminals : Vocabulary}

/-- A rule that is added has a valid weight and declared symbols, and its weight is added at the
place of its production. -/
theorem Tally.of_addRule_eq_ok {tally next : Tally α} {rule : WeightedRule α}
    (added : Tally.addRule nonTerminals terminals tally rule = .ok next) :
    Scalar.isWeight rule.weight = true ∧
    ((∃ lhs symbol parent row, rule.production = .unary lhs symbol ∧
        nonTerminals.get? lhs = some parent ∧ terminals.get? symbol = some row ∧
        next = { tally with
          unary := tally.unary.addAt row parent rule.weight, hasUnary := true }) ∨
      ∃ lhs left right parent leftChild rightChild, rule.production = .binary lhs left right ∧
        nonTerminals.get? lhs = some parent ∧ nonTerminals.get? left = some leftChild ∧
        nonTerminals.get? right = some rightChild ∧
        next = { tally with
          binary := tally.binary.addAt (leftChild * nonTerminals.size + rightChild) parent
            rule.weight
          hasBinary := true }) := by
  rw [Tally.addRule] at added
  split at added
  · rename_i valid
    refine ⟨valid, ?_⟩
    obtain ⟨production, weight⟩ := rule
    obtain ⟨parent, foundParent, rest⟩ := bind_eq_ok_iff.mp added
    have parentNumber := Vocabulary.lookup_eq_ok_iff.mp foundParent
    cases production with
    | unary lhs symbol =>
      obtain ⟨row, foundRow, same⟩ := bind_eq_ok_iff.mp rest
      cases same
      exact Or.inl ⟨lhs, symbol, parent, row, rfl, parentNumber,
        Vocabulary.lookup_eq_ok_iff.mp foundRow, rfl⟩
    | binary lhs left right =>
      obtain ⟨leftChild, foundLeft, others⟩ := bind_eq_ok_iff.mp rest
      obtain ⟨rightChild, foundRight, same⟩ := bind_eq_ok_iff.mp others
      cases same
      exact Or.inr ⟨lhs, left, right, parent, leftChild, rightChild, rfl, parentNumber,
        Vocabulary.lookup_eq_ok_iff.mp foundLeft, Vocabulary.lookup_eq_ok_iff.mp foundRight, rfl⟩
  · cases added

/-- The place of a production in the table for words. -/
def wordPlace? (nonTerminals terminals : Vocabulary) : Production → Option (Nat × Nat)
  | .unary lhs symbol => do return (← terminals.get? symbol, ← nonTerminals.get? lhs)
  | .binary _ _ _ => none

/-- The place of a production in the table for pairs. -/
def pairPlace? (nonTerminals : Vocabulary) : Production → Option (Nat × Nat)
  | .unary _ _ => none
  | .binary lhs left right => do
    let leftChild ← nonTerminals.get? left
    let rightChild ← nonTerminals.get? right
    return (leftChild * nonTerminals.size + rightChild, ← nonTerminals.get? lhs)

/-- The tally with the weight of a rule at the place of its production. -/
def Tally.include (nonTerminals terminals : Vocabulary) (tally : Tally α)
    (rule : WeightedRule α) : Tally α where
  unary := tally.unary.addAtPlace (wordPlace? nonTerminals terminals rule.production) rule.weight
  hasUnary := tally.hasUnary || rule.production.isUnary
  binary := tally.binary.addAtPlace (pairPlace? nonTerminals rule.production) rule.weight
  hasBinary := tally.hasBinary || rule.production.isBinary

theorem Tally.include_of_addRule {tally next : Tally α} {rule : WeightedRule α}
    (added : Tally.addRule nonTerminals terminals tally rule = .ok next) :
    tally.include nonTerminals terminals rule = next := by
  obtain ⟨_, kinds⟩ := Tally.of_addRule_eq_ok added
  rcases kinds with ⟨lhs, symbol, parent, row, kind, foundLhs, foundSymbol, rfl⟩ |
    ⟨lhs, left, right, parent, leftChild, rightChild, kind, foundLhs, foundLeft, foundRight, rfl⟩
  · simp [Tally.include, kind, wordPlace?, pairPlace?, foundLhs, foundSymbol, Tensor.addAtPlace,
      Production.isUnary, Production.isBinary]
  · simp [Tally.include, kind, wordPlace?, pairPlace?, foundLhs, foundLeft, foundRight,
      Tensor.addAtPlace, Production.isUnary, Production.isBinary]

/-! ### Places and names -/

theorem wordPlace?_eq_some_iff {production : Production} {row parent : Nat} :
    wordPlace? nonTerminals terminals production = some (row, parent) ↔
      ∃ lhs symbol, production = .unary lhs symbol ∧ terminals.get? symbol = some row ∧
        nonTerminals.get? lhs = some parent := by
  cases production with
  | unary lhs symbol =>
    simp only [wordPlace?, Option.bind_eq_bind, Option.bind_eq_some_iff, Option.pure_def,
      Option.some.injEq, Prod.mk.injEq, Production.unary.injEq]
    constructor
    · rintro ⟨_, foundSymbol, _, foundLhs, rfl, rfl⟩
      exact ⟨lhs, symbol, ⟨rfl, rfl⟩, foundSymbol, foundLhs⟩
    · rintro ⟨_, _, ⟨rfl, rfl⟩, foundSymbol, foundLhs⟩
      exact ⟨row, foundSymbol, parent, foundLhs, rfl, rfl⟩
  | binary lhs left right =>
    exact ⟨fun same => (nomatch same), fun ⟨_, _, same, _⟩ => (nomatch same)⟩

theorem pairPlace?_eq_some_iff {production : Production} {row parent : Nat} :
    pairPlace? nonTerminals production = some (row, parent) ↔
      ∃ lhs left right leftChild rightChild, production = .binary lhs left right ∧
        nonTerminals.get? left = some leftChild ∧ nonTerminals.get? right = some rightChild ∧
        nonTerminals.get? lhs = some parent ∧
        leftChild * nonTerminals.size + rightChild = row := by
  cases production with
  | unary lhs symbol =>
    exact ⟨fun same => (nomatch same), fun ⟨_, _, _, _, _, same, _⟩ => (nomatch same)⟩
  | binary lhs left right =>
    simp only [pairPlace?, Option.bind_eq_bind, Option.bind_eq_some_iff, Option.pure_def,
      Option.some.injEq, Prod.mk.injEq, Production.binary.injEq]
    constructor
    · rintro ⟨leftChild, foundLeft, rightChild, foundRight, _, foundLhs, rowIs, rfl⟩
      exact ⟨lhs, left, right, leftChild, rightChild, ⟨rfl, rfl, rfl⟩, foundLeft, foundRight,
        foundLhs, rowIs⟩
    · rintro ⟨_, _, _, leftChild, rightChild, ⟨rfl, rfl, rfl⟩, foundLeft, foundRight, foundLhs,
        rowIs⟩
      exact ⟨leftChild, foundLeft, rightChild, foundRight, parent, foundLhs, rowIs, rfl⟩

/-! ### All rules -/

/-- The weights that are added at the place of a production are those of its rules. -/
theorem foldl_eq_occurrenceTotal (rules : List (WeightedRule α))
    {place? : Production → Option (Nat × Nat)} {place : Nat × Nat} {production : Production}
    (only : ∀ other, place? other = some place ↔ other = production) :
    (rules.filter fun rule => place? rule.production = some place).foldl
        (fun sum rule => sum + rule.weight) 0 =
      occurrenceTotal rules production := by
  rw [occurrenceTotal, ValueVector.runningTotal, List.foldl_map]
  refine congrArg (List.foldl _ _) (List.filter_congr fun rule _ => ?_)
  exact decide_eq_decide.mpr (only rule.production)

/-- Filled from zeros, the table for words holds the totals of the productions. -/
theorem addAll_wordPlace_eq (nonTerminals terminals : Vocabulary)
    (rules : List (WeightedRule α)) :
    (Tensor.zeros #v[terminals.size] nonTerminals.size).addAll
        (fun rule => wordPlace? nonTerminals terminals rule.production) WeightedRule.weight rules =
      wordTable nonTerminals.names terminals.names rules := by
  refine Tensor.addAll_zeros_eq_generate rules ?_ ?_
  · intro rule row parent here
    obtain ⟨_, _, _, foundSymbol, foundLhs⟩ := wordPlace?_eq_some_iff.mp here
    rw [Tensor.product_single]
    exact ⟨Vocabulary.lt_size_of_get? foundSymbol, Vocabulary.lt_size_of_get? foundLhs⟩
  · intro row parent rowLt parentLt
    rw [Tensor.product_single] at rowLt
    refine foldl_eq_occurrenceTotal rules fun other => ?_
    rw [wordPlace?_eq_some_iff]
    constructor
    · rintro ⟨lhs, symbol, rfl, foundSymbol, foundLhs⟩
      rw [← (Vocabulary.eq_getD_iff rowLt).mpr foundSymbol,
        ← (Vocabulary.eq_getD_iff parentLt).mpr foundLhs]
    · rintro rfl
      exact ⟨_, _, rfl, (Vocabulary.eq_getD_iff rowLt).mp rfl,
        (Vocabulary.eq_getD_iff parentLt).mp rfl⟩

/-- Filled from zeros, the table for pairs holds the totals of the productions. -/
theorem addAll_pairPlace_eq (nonTerminals : Vocabulary) (rules : List (WeightedRule α)) :
    (Tensor.zeros #v[nonTerminals.size, nonTerminals.size] nonTerminals.size).addAll
        (fun rule => pairPlace? nonTerminals rule.production) WeightedRule.weight rules =
      pairTable nonTerminals.names rules := by
  rw [pairTable, Tensor.ofPairs]
  refine Tensor.addAll_zeros_eq_generate rules ?_ ?_
  · intro rule row parent here
    obtain ⟨_, _, _, _, _, _, foundLeft, foundRight, foundLhs, rfl⟩ :=
      pairPlace?_eq_some_iff.mp here
    rw [Tensor.product_pairs]
    exact ⟨Tensor.place_lt (Vocabulary.lt_size_of_get? foundLeft)
      (Vocabulary.lt_size_of_get? foundRight), Vocabulary.lt_size_of_get? foundLhs⟩
  · intro row parent rowLt parentLt
    rw [Tensor.product_pairs] at rowLt
    have sizePos : 0 < nonTerminals.size := Nat.zero_lt_of_lt parentLt
    have leftLt : row / nonTerminals.size < nonTerminals.size := Nat.div_lt_of_lt_mul rowLt
    have rightLt : row % nonTerminals.size < nonTerminals.size := Nat.mod_lt row sizePos
    refine foldl_eq_occurrenceTotal rules fun other => ?_
    rw [pairPlace?_eq_some_iff]
    constructor
    · rintro ⟨lhs, left, right, leftChild, rightChild, rfl, foundLeft, foundRight, foundLhs, rfl⟩
      have inside := Vocabulary.lt_size_of_get? foundRight
      rw [Tensor.row_place _ inside] at leftLt
      rw [Tensor.parent_place _ inside] at rightLt
      show _ = Production.binary _ (nonTerminals.names.getD
        ((leftChild * nonTerminals.size + rightChild) / nonTerminals.size) "")
        (nonTerminals.names.getD
          ((leftChild * nonTerminals.size + rightChild) % nonTerminals.size) "")
      rw [Tensor.row_place _ inside, Tensor.parent_place _ inside,
        ← (Vocabulary.eq_getD_iff leftLt).mpr foundLeft,
        ← (Vocabulary.eq_getD_iff rightLt).mpr foundRight,
        ← (Vocabulary.eq_getD_iff parentLt).mpr foundLhs]
    · rintro rfl
      exact ⟨_, _, _, _, _, rfl, (Vocabulary.eq_getD_iff leftLt).mp rfl,
        (Vocabulary.eq_getD_iff rightLt).mp rfl, (Vocabulary.eq_getD_iff parentLt).mp rfl,
        Nat.div_add_mod' _ _⟩

/-- What some rules add up to, in names. -/
def Tally.ofRules (nonTerminals terminals : List String) (rules : List (WeightedRule α)) :
    Tally α where
  unary := wordTable nonTerminals terminals rules
  hasUnary := rules.any fun rule => rule.production.isUnary
  binary := pairTable nonTerminals rules
  hasBinary := rules.any fun rule => rule.production.isBinary

theorem Tally.foldl_include (rules : List (WeightedRule α)) (tally : Tally α) :
    rules.foldl (Tally.include nonTerminals terminals) tally =
      { unary := tally.unary.addAll
          (fun rule => wordPlace? nonTerminals terminals rule.production) WeightedRule.weight rules
        hasUnary := tally.hasUnary || rules.any fun rule => rule.production.isUnary
        binary := tally.binary.addAll
          (fun rule => pairPlace? nonTerminals rule.production) WeightedRule.weight rules
        hasBinary := tally.hasBinary || rules.any fun rule => rule.production.isBinary } := by
  induction rules generalizing tally with
  | nil =>
    rw [List.any_nil, List.any_nil, Bool.or_false, Bool.or_false]
    rfl
  | cons rule rest inductionHypothesis =>
    rw [List.foldl_cons, inductionHypothesis, List.any_cons, List.any_cons, ← Bool.or_assoc,
      ← Bool.or_assoc]
    rfl

/-- The tally of some accepted rules is what they add up to. -/
theorem Tally.eq_ofRules {rules : List (WeightedRule α)} {tally : Tally α}
    (tallied : rules.foldlM (Tally.addRule nonTerminals terminals)
      (Tally.zero nonTerminals.size terminals.size) = .ok tally) :
    tally = Tally.ofRules nonTerminals.names terminals.names rules := by
  rw [← foldl_eq_of_foldlM_eq_ok (fun _ _ _ added => Tally.include_of_addRule added) tallied,
    Tally.foldl_include, Tally.ofRules, ← addAll_wordPlace_eq, ← addAll_pairPlace_eq]
  rfl

/-- All rules that are accepted have valid weights and declared symbols. -/
theorem Tally.declared_of_foldlM {rules : List (WeightedRule α)} {start tally : Tally α}
    (tallied : rules.foldlM (Tally.addRule nonTerminals terminals) start = .ok tally) :
    ∀ rule ∈ rules, Scalar.isWeight rule.weight = true ∧
      rule.production.Declared nonTerminals.names.toFinset terminals.names.toFinset := by
  induction rules generalizing start with
  | nil => exact fun _ member => absurd member List.not_mem_nil
  | cons rule rest inductionHypothesis =>
    rw [List.foldlM_cons] at tallied
    obtain ⟨next, added, others⟩ := bind_eq_ok_iff.mp tallied
    refine List.forall_mem_cons.mpr ⟨?_, inductionHypothesis others⟩
    have mem {vocabulary : Vocabulary} {name : String} {number : Nat}
        (found : vocabulary.get? name = some number) : name ∈ vocabulary.names.toFinset :=
      List.mem_toFinset.mpr (Vocabulary.mem_of_get? found)
    obtain ⟨valid, kinds⟩ := Tally.of_addRule_eq_ok added
    refine ⟨valid, ?_⟩
    rcases kinds with ⟨lhs, symbol, parent, row, kind, foundLhs, foundSymbol, _⟩ |
      ⟨lhs, left, right, parent, leftChild, rightChild, kind, foundLhs, foundLeft, foundRight, _⟩
    · rw [kind]
      exact ⟨mem foundLhs, mem foundSymbol⟩
    · rw [kind]
      exact ⟨mem foundLhs, mem foundLeft, mem foundRight⟩

/-! ### Entries -/

end Grammar

end RecursiveBayes
