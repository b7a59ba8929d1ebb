/-
This file says which grammars are accepted and what is said about the others: a grammar
is accepted exactly if nothing is wrong with its declaration, and otherwise the first
thing that is wrong is reported.

Behind the checks of the declaration stand those of the constructors that the
compilation calls. None of them ever has anything to report, because what is passed to
them is made of the weights that were checked before: the table of a kind of rules has
places as soon as there is such a rule, its entries are totals of weights, and all axes
are the non-terminals. All that is asked of the numbers is that the totals are weights
again, which can fail for floating-point numbers only by growing beyond them.
-/

import RecursiveBayes.Proofs.Grammar.Compiled
import RecursiveBayes.Proofs.Grammar.Violations
import RecursiveBayes.Proofs.Network.Soundness
import RecursiveBayes.Scalar.Binary64

namespace RecursiveBayes

open Vocabulary

variable {α : Type} [Scalar α]

namespace Grammar

/-! ### Totals -/

/-- The weights of some rules add up to weights: those of each production, and those of each of the
two tables. -/
structure TotalsFinite (nonTerminals terminals : List String) (rules : List (WeightedRule α)) :
    Prop where
  production : ∀ rule ∈ rules,
    Scalar.isWeight (occurrenceTotal rules rule.production) = true
  words : Scalar.isWeight (wordTable nonTerminals terminals rules).total = true
  pairs : Scalar.isWeight (pairTable nonTerminals rules).total = true

/-- Every production has a total that is a weight, also if there is no rule for it. -/
theorem TotalsFinite.isWeight_occurrenceTotal (zero : Scalar.isWeight (0 : α) = true)
    {nonTerminals terminals : List String} {rules : List (WeightedRule α)}
    (finite : TotalsFinite nonTerminals terminals rules) (production : Production) :
    Scalar.isWeight (occurrenceTotal rules production) = true := by
  by_cases occurs : ∃ rule ∈ rules, rule.production = production
  · obtain ⟨rule, member, rfl⟩ := occurs
    exact finite.production rule member
  · have nothing : (rules.filter fun rule => rule.production = production) = [] := by
      refine List.filter_eq_nil_iff.mpr fun rule member same => ?_
      exact occurs ⟨rule, member, of_decide_eq_true same⟩
    rw [occurrenceTotal, nothing]
    exact zero

/-- Over the rational numbers, weights always add up to weights. -/
theorem totalsFinite_rational (nonTerminals terminals : List String)
    {rules : List (WeightedRule ℚ)}
    (valid : ∀ rule ∈ rules, Scalar.isWeight rule.weight = true) :
    TotalsFinite nonTerminals terminals rules := by
  have total (production : Production) : 0 ≤ occurrenceTotal rules production := by
    rw [occurrenceTotal_eq_ruleWeight]
    exact weightWhere_nonneg (fun rule member => of_decide_eq_true (valid rule member)) _
  refine ⟨fun rule _ => decide_eq_true (total rule.production), decide_eq_true ?_,
    decide_eq_true ?_⟩
  · refine ValueVector.total_nonneg fun entry member => ?_
    obtain ⟨place, rfl⟩ := Array.mem_ofFn.mp (Array.mem_toList_iff.mp member)
    exact total _
  · refine ValueVector.total_nonneg fun entry member => ?_
    obtain ⟨place, rfl⟩ := Array.mem_ofFn.mp (Array.mem_toList_iff.mp member)
    exact total _

/-! ### The constructors behind the checks -/

/-- A transition that fits a cell which is the only one. -/
def FitsAlone (size : Nat) : Transition α → Prop
  | .terminal transition => transition.parentCardinality = size
  | .binary transition => transition.parentCardinality = size ∧
      transition.leftCardinality = size ∧ transition.rightCardinality = size ∧
      transition.children = none

/-- A tally whose tables are accepted wherever there are rules for them. -/
structure Tally.Sound (size : Nat) (tally : Tally α) : Prop where
  unary : tally.hasUnary = true → tally.unary.Sound
  unaryTotal : Scalar.isWeight tally.unary.total = true
  unaryParents : tally.unary.parents = size
  binary : tally.hasBinary = true → tally.binary.Sound
  binaryTotal : Scalar.isWeight tally.binary.total = true
  binaryOutcomes : tally.binary.outcomes = #v[size, size]
  binaryParents : tally.binary.parents = size

/-- A table has places as soon as there is a rule for it. -/
theorem Tally.sound_ofRules (zero : Scalar.isWeight (0 : α) = true)
    {nonTerminals terminals : List String} {rules : List (WeightedRule α)}
    (declared : ∀ rule ∈ rules,
      rule.production.Declared nonTerminals.toFinset terminals.toFinset)
    (finite : TotalsFinite nonTerminals terminals rules) :
    (Tally.ofRules nonTerminals terminals rules).Sound nonTerminals.length where
  unary present := by
    obtain ⟨rule, member, kind⟩ := List.any_eq_true.mp present
    have symbols := declared rule member
    cases production : rule.production with
    | binary lhs left right => simp [production, Production.isUnary] at kind
    | unary lhs symbol =>
      rw [production] at symbols
      show (wordTable nonTerminals terminals rules).Sound
      rw [wordTable]
      refine Tensor.sound_generate ?_ (List.length_pos_of_mem (List.mem_toFinset.mp symbols.1))
        fun _ _ => finite.isWeight_occurrenceTotal zero _
      rw [Tensor.product_single]
      exact List.length_pos_of_mem (List.mem_toFinset.mp symbols.2)
  unaryTotal := finite.words
  unaryParents := rfl
  binary present := by
    obtain ⟨rule, member, _⟩ := List.any_eq_true.mp present
    have positive : 0 < nonTerminals.length :=
      List.length_pos_of_mem (List.mem_toFinset.mp (declared rule member).lhs_mem)
    show (pairTable nonTerminals rules).Sound
    rw [pairTable]
    exact Tensor.sound_ofPairs positive positive positive
      fun _ _ _ => finite.isWeight_occurrenceTotal zero _
  binaryTotal := finite.pairs
  binaryOutcomes := rfl
  binaryParents := rfl

namespace Tally.Sound

variable {size : Nat} {tally : Tally α}

theorem exists_terminal (sound : tally.Sound size) :
    ∃ choices, tally.terminalTransition = .ok choices ∧
      (tally.hasUnary = true → choices ≠ []) ∧
      ∀ choice ∈ choices, FitsAlone size choice.1 ∧ Scalar.isWeight choice.2 = true := by
  rw [Tally.terminalTransition]
  cases present : tally.hasUnary with
  | false => exact ⟨[], rfl, fun absurdly => absurd absurdly Bool.false_ne_true,
      fun _ member => absurd member List.not_mem_nil⟩
  | true =>
    obtain ⟨table, weights⟩ := (sound.unary present).exists_table
    have built : TerminalTransition.build tally.unary = .ok ⟨table⟩ :=
      TerminalTransition.build_eq_ok_iff.mpr weights
    refine ⟨_, bind_eq_ok_iff.mpr ⟨_, built, rfl⟩, fun _ => List.cons_ne_nil _ _,
      List.forall_mem_singleton.mpr ⟨?_, sound.unaryTotal⟩⟩
    rw [FitsAlone, TerminalTransition.parentCardinality, ConditionalTable.parents, weights,
      sound.unaryParents]

theorem exists_binary (sound : tally.Sound size) :
    ∃ choices, tally.binaryTransition = .ok choices ∧
      (tally.hasBinary = true → choices ≠ []) ∧
      ∀ choice ∈ choices, FitsAlone size choice.1 ∧ Scalar.isWeight choice.2 = true := by
  rw [Tally.binaryTransition]
  cases present : tally.hasBinary with
  | false => exact ⟨[], rfl, fun absurdly => absurd absurdly Bool.false_ne_true,
      fun _ member => absurd member List.not_mem_nil⟩
  | true =>
    obtain ⟨table, weights⟩ := (sound.binary present).exists_table
    have built : BinaryTransition.build tally.binary none = .ok ⟨table, none⟩ :=
      BinaryTransition.build_eq_ok_iff.mpr ⟨weights, rfl⟩
    have outcomes : table.outcomes = #v[size, size] := by
      rw [ConditionalTable.outcomes, weights, sound.binaryOutcomes]
    refine ⟨_, bind_eq_ok_iff.mpr ⟨_, built, rfl⟩, fun _ => List.cons_ne_nil _ _,
      List.forall_mem_singleton.mpr ⟨⟨?_, ?_, ?_, rfl⟩, sound.binaryTotal⟩⟩
    · rw [BinaryTransition.parentCardinality, ConditionalTable.parents, weights,
        sound.binaryParents]
    · rw [BinaryTransition.leftCardinality, outcomes]
      rfl
    · rw [BinaryTransition.rightCardinality, outcomes]
      rfl

/-- Where there is a rule, there is a cell. -/
theorem exists_cell (sound : tally.Sound size) (positive : 0 < size)
    (present : tally.hasUnary = true ∨ tally.hasBinary = true) :
    ∃ cell, tally.cell size = .ok cell ∧ cell.cardinality = size ∧
      ∀ transition ∈ cell.transitions, FitsAlone size transition := by
  obtain ⟨terminal, terminalMade, terminalSome, terminalFits⟩ := sound.exists_terminal
  obtain ⟨binary, binaryMade, binarySome, binaryFits⟩ := sound.exists_binary
  have fits : ∀ choice ∈ terminal ++ binary,
      FitsAlone size choice.1 ∧ Scalar.isWeight choice.2 = true :=
    List.forall_mem_append.mpr ⟨terminalFits, binaryFits⟩
  have nonempty : ¬ (terminal ++ binary).isEmpty = true := by
    rw [List.isEmpty_iff, List.append_eq_nil_iff]
    rintro ⟨noTerminal, noBinary⟩
    exact present.elim (fun here => terminalSome here noTerminal)
      fun here => binarySome here noBinary
  let cell : Cell α :=
    { domain := ⟨size, positive⟩
      transitions := (terminal ++ binary).map Prod.fst
      weights := (terminal ++ binary).map Prod.snd
      weights_valid := ValueVector.firstInvalid?_eq_none_iff.mpr
        (List.forall_mem_map.mpr fun choice member => (fits choice member).2)
      length_weights := (List.length_map _).trans (List.length_map _).symm
      parents_eq := List.forall_mem_map.mpr fun choice member => by
        have here := (fits choice member).1
        cases kind : choice.1 with
        | terminal transition =>
          rw [kind] at here
          exact here
        | binary transition =>
          rw [kind] at here
          exact here.1 }
  refine ⟨cell, ?_, rfl, List.forall_mem_map.mpr fun choice member => (fits choice member).1⟩
  rw [Tally.cell, terminalMade, ok_bind, binaryMade, ok_bind]
  dsimp only
  rw [if_neg nonempty]
  exact bind_eq_ok_iff.mpr ⟨cell.domain, Variable.build_eq_ok_iff.mpr rfl,
    Cell.build_eq_ok_iff.mpr ⟨rfl, rfl, rfl⟩⟩

end Tally.Sound

/-- The prior for a start symbol is accepted. -/
theorem exists_prior (zero : Scalar.isWeight (0 : α) = true)
    (one : Scalar.isWeight (1 : α) = true) {size : Nat} (positive : 0 < size) (place : Nat) :
    ∃ prior : Prior α, Prior.build [1] [oneHot size place] = .ok prior := by
  refine ⟨⟨[1], [oneHot size place], ?_, rfl, ?_, ?_⟩, Prior.build_eq_ok_iff.mpr ⟨rfl, rfl⟩⟩
  · exact ValueVector.firstInvalid?_eq_none_iff.mpr (List.forall_mem_singleton.mpr one)
  · refine List.forall_mem_singleton.mpr (ValueVector.firstInvalid?_eq_none_iff.mpr ?_)
    intro weight member
    rcases List.mem_or_eq_of_mem_set member with inZeros | rfl
    · rw [List.eq_of_mem_replicate inZeros]
      exact zero
    · exact one
  · refine List.forall_mem_singleton.mpr (List.ne_nil_of_length_pos ?_)
    rwa [length_oneHot]

/-- A cell that fits itself and a prior over its values make up a network. -/
theorem exists_network {cell : Cell α} {prior : Prior α} {weights : ValueVector α}
    (fits : ∀ transition ∈ cell.transitions, FitsAlone cell.cardinality transition)
    (values : prior.valueWeights = [weights]) (lengths : weights.length = cell.cardinality) :
    ∃ network, Network.build [cell] prior {} = .ok network := by
  have sound : Network.firstDefect? [cell] prior = none := by
    rw [Network.firstDefect?_eq_none_iff, Prior.cellCount, values]
    refine ⟨rfl, List.forall_mem_singleton.mpr ?_⟩
    rw [Network.cellDefect?, if_pos lengths]
    refine List.findSome?_eq_none_iff.mpr ?_
    rintro ⟨transition, position⟩ inside
    have here := fits transition (List.fst_mem_of_mem_zipIdx inside)
    cases transition with
    | terminal transition => rfl
    | binary transition =>
      obtain ⟨_, left, right, children⟩ := here
      have alone {child axis : Nat} {side : Side} (isFirst : child = 0)
          (axisIs : axis = cell.cardinality) :
          Network.childDefect? [cell] 0 position side child axis = none :=
        Network.childDefect?_eq_none_iff.mpr ⟨cell, isFirst ▸ rfl, axisIs.symm⟩
      refine Option.or_eq_none_iff.mpr ⟨alone ?_ left, alone ?_ right⟩
      · rw [BinaryTransition.leftIndex, children]
        rfl
      · rw [BinaryTransition.rightIndex, children]
        rfl
  exact ⟨⟨[cell], prior, {}, sound⟩, Network.build_eq_ok_iff.mpr ⟨rfl, rfl, rfl⟩⟩

/-! ### All checks -/

/-- Putting the rules together reports what is wrong with them, and nothing else. -/
theorem reports_assemble (zero : Scalar.isWeight (0 : α) = true)
    (one : Scalar.isWeight (1 : α) = true) {nonTerminals terminals : Vocabulary}
    (nonempty : nonTerminals.names ≠ []) {rules : List (WeightedRule α)} (start : String)
    (finite : (∀ rule ∈ rules, Scalar.isWeight rule.weight = true) →
      TotalsFinite nonTerminals.names terminals.names rules) :
    Reports (ruleFaults nonTerminals.names terminals.names rules start)
      (assemble nonTerminals terminals rules start
        (.zero nonTerminals.size terminals.size)) := by
  rw [ruleFaults, assemble, List.append_assoc]
  refine (Reports.foldlM (reports_addRule nonTerminals terminals) _).bind fun tally tallied => ?_
  by_cases noRules : rules = []
  · subst noRules
    cases tallied
    rfl
  rw [if_neg noRules, List.nil_append]
  -- From here on, only the start symbol can be wrong: the rest is made of what was checked.
  have accepted := Tally.declared_of_foldlM tallied
  have sum := Tally.eq_ofRules tallied
  have sound : tally.Sound nonTerminals.size :=
    sum ▸ Tally.sound_ofRules zero (fun rule member => (accepted rule member).2)
      (finite fun rule member => (accepted rule member).1)
  have present : tally.hasUnary = true ∨ tally.hasBinary = true := by
    obtain ⟨rule, member⟩ := List.exists_mem_of_ne_nil _ noRules
    rw [sum]
    refine Or.imp (fun kind => List.any_eq_true.mpr ⟨rule, member, kind⟩)
      (fun kind => List.any_eq_true.mpr ⟨rule, member, kind⟩) ?_
    cases rule.production <;> simp [Production.isUnary, Production.isBinary]
  have positive : 0 < nonTerminals.size := List.length_pos_of_ne_nil nonempty
  obtain ⟨cell, made, cardinality, fits⟩ := sound.exists_cell positive present
  rw [made, ok_bind]
  refine (reports_lookup nonTerminals start).bind_ok fun startNumber _ => ?_
  obtain ⟨prior, priorBuilt⟩ := exists_prior zero one positive startNumber
  obtain ⟨network, networkBuilt⟩ := exists_network (cardinality.symm ▸ fits)
    (Prior.build_eq_ok_iff.mp priorBuilt).2 ((length_oneHot _ _).trans cardinality.symm)
  exact ⟨_, bind_eq_ok_iff.mpr ⟨prior, priorBuilt, bind_eq_ok_iff.mpr ⟨network, networkBuilt, rfl⟩⟩⟩

/-- Compiling a grammar for which there is room reports what is wrong with its declaration, and
nothing else. -/
theorem reports_compile (zero : Scalar.isWeight (0 : α) = true)
    (one : Scalar.isWeight (1 : α) = true) {nonTerminalNames terminalNames : List String}
    (room : HasRoom nonTerminalNames.length terminalNames.length)
    {rules : List (WeightedRule α)} (start : String)
    (finite : (∀ rule ∈ rules, Scalar.isWeight rule.weight = true) →
      TotalsFinite nonTerminalNames terminalNames rules) :
    Reports ((violations nonTerminalNames terminalNames rules start).map .fault)
      (compile nonTerminalNames terminalNames rules start) := by
  rw [compile_eq, violations, List.map_append]
  have symbols := reports_declare (α := α) nonTerminalNames terminalNames
  rcases declared : (declare nonTerminalNames terminalNames : Built α (Vocabulary × Vocabulary))
    with fault | ⟨nonTerminals, terminals⟩
  · obtain ⟨rest, faults⟩ := List.head?_eq_some_iff.mp (symbols.eq_error_iff.mp declared)
    rw [faults]
    rfl
  · have nothing := symbols.exists_ok_iff.mp ⟨_, declared⟩
    obtain ⟨rfl, rfl, nonempty⟩ := of_declare_eq_ok declared
    have hasRoom : HasRoom nonTerminals.size terminals.size := room
    simp only [nothing, if_pos hasRoom]
    exact (reports_assemble zero one nonempty start finite).lift

/-- Without room, compiling reports what is wrong with the symbols, and aborts otherwise. -/
theorem reports_compile_of_full {nonTerminalNames terminalNames : List String}
    (full : ¬ HasRoom nonTerminalNames.length terminalNames.length)
    (rules : List (WeightedRule α)) (start : String) :
    Reports ((symbolFaults nonTerminalNames terminalNames).map .fault ++ [.abort .allocation])
      (compile nonTerminalNames terminalNames rules start) := by
  rw [compile_eq]
  have symbols := reports_declare (α := α) nonTerminalNames terminalNames
  rcases declared : (declare nonTerminalNames terminalNames : Built α (Vocabulary × Vocabulary))
    with fault | ⟨nonTerminals, terminals⟩
  · obtain ⟨rest, faults⟩ := List.head?_eq_some_iff.mp (symbols.eq_error_iff.mp declared)
    rw [faults]
    rfl
  · have nothing := symbols.exists_ok_iff.mp ⟨_, declared⟩
    obtain ⟨rfl, rfl, _⟩ := of_declare_eq_ok declared
    have noRoom : ¬ HasRoom nonTerminals.size terminals.size := full
    simp only [nothing, if_neg noRoom]
    rfl

/-! ### Texts -/

/-- The first text that is no rule is reported, whatever else is wrong. -/
theorem compileText_of_fault (nonTerminalNames terminalNames : List String) (start : String)
    {front : List (String × α)} (read : ∀ entry ∈ front, ∃ production,
      Production.parse entry.1 = .ok production) {text : String} {fault : RuleFault}
    (unreadable : Production.parse text = .error fault) (weight : α)
    (back : List (String × α)) :
    compileText nonTerminalNames terminalNames (front ++ (text, weight) :: back) start =
      .error (.fault (.parse fault)) := by
  have failed : WeightedRule.parseAll (front ++ (text, weight) :: back) =
      .error (.parse fault) := by
    rw [WeightedRule.parseAll]
    induction front with
    | nil =>
      rw [List.nil_append, List.mapM_cons, WeightedRule.parse, unreadable]
      rfl
    | cons entry rest inductionHypothesis =>
      obtain ⟨⟨production, here⟩, others⟩ := List.forall_mem_cons.mp read
      rw [List.cons_append, List.mapM_cons, WeightedRule.parse, here,
        inductionHypothesis others]
      rfl
  rw [compileText, failed]
  rfl

/-- Rules that are read from texts are compiled as they are. -/
theorem compileText_of_rules (nonTerminalNames terminalNames : List String) (start : String)
    {texts : List (String × α)} {rules : List (WeightedRule α)}
    (read : List.Forall₂ (fun text rule => Production.parse text.1 = .ok rule.production ∧
      text.2 = rule.weight) texts rules) :
    compileText nonTerminalNames terminalNames texts start =
      compile nonTerminalNames terminalNames rules start := by
  have parsed : WeightedRule.parseAll texts = .ok rules := by
    rw [WeightedRule.parseAll, mapM_eq_ok_iff]
    refine List.Forall₂.imp (fun text rule both => ?_) read
    obtain ⟨here, weight⟩ := both
    rw [WeightedRule.parse, here, weight]
  rw [compileText, parsed]
  rfl

/-! ### Acceptance -/

/-- Where the totals of the weights are weights and there is room for them, the grammars that are
accepted are the well declared ones. For any other grammar the first thing is reported that is wrong
with its declaration, so no constructor behind the checks ever fails. Without room, what is wrong
with the symbols is reported, and compiling aborts if nothing is. If the rules are given as text, a
text that is no rule is reported before all of this. -/
theorem compile_accepts_wellDeclared_reports_first
    (zero : Scalar.isWeight (0 : α) = true) (one : Scalar.isWeight (1 : α) = true)
    (nonTerminalNames terminalNames : List String) (rules : List (WeightedRule α))
    (start : String)
    (finite : (∀ rule ∈ rules, Scalar.isWeight rule.weight = true) →
      TotalsFinite nonTerminalNames terminalNames rules) :
    (HasRoom nonTerminalNames.length terminalNames.length →
      ((∃ grammar, compile nonTerminalNames terminalNames rules start = .ok grammar) ↔
        WellDeclared nonTerminalNames terminalNames rules start) ∧
      (∀ failure, compile nonTerminalNames terminalNames rules start = .error failure ↔
        ((violations nonTerminalNames terminalNames rules start).map Failure.fault).head? =
          some failure)) ∧
    (¬ HasRoom nonTerminalNames.length terminalNames.length →
      (¬ ∃ grammar, compile nonTerminalNames terminalNames rules start = .ok grammar) ∧
      (∀ failure, compile nonTerminalNames terminalNames rules start = .error failure ↔
        ((symbolFaults nonTerminalNames terminalNames).map Failure.fault ++
          [Failure.abort .allocation]).head? = some failure)) ∧
    (∀ texts : List (String × α),
      List.Forall₂ (fun text rule => Production.parse text.1 = .ok rule.production ∧
        text.2 = rule.weight) texts rules →
      compileText nonTerminalNames terminalNames texts start =
        compile nonTerminalNames terminalNames rules start) ∧
    ∀ (front back : List (String × α)) (text : String) (weight : α) (fault : RuleFault),
      (∀ entry ∈ front, ∃ production, Production.parse entry.1 = .ok production) →
      Production.parse text = .error fault →
      compileText nonTerminalNames terminalNames (front ++ (text, weight) :: back) start =
        .error (.fault (.parse fault)) := by
  refine ⟨fun room => ?_, fun full => ?_, fun texts read => compileText_of_rules _ _ _ read,
    fun front back text weight fault read unreadable =>
      compileText_of_fault _ _ _ read unreadable weight back⟩
  · have reports := reports_compile zero one room start finite
    refine ⟨?_, fun failure => reports.eq_error_iff⟩
    rw [reports.exists_ok_iff, List.map_eq_nil_iff, violations_eq_nil_iff]
  · have reports := reports_compile_of_full full rules start
    refine ⟨?_, fun failure => reports.eq_error_iff⟩
    rw [reports.exists_ok_iff]
    exact List.append_ne_nil_of_right_ne_nil _ (List.cons_ne_nil _ _)

/-- A grammar that is well declared but has no room aborts. -/
theorem compile_of_full {nonTerminalNames terminalNames : List String}
    {rules : List (WeightedRule α)} {start : String}
    (wellDeclared : WellDeclared nonTerminalNames terminalNames rules start)
    (full : ¬ HasRoom nonTerminalNames.length terminalNames.length) :
    compile nonTerminalNames terminalNames rules start = .error (.abort .allocation) := by
  have reports := reports_compile_of_full full rules start
  have nothing := violations_eq_nil_iff.mpr wellDeclared
  rw [violations, List.append_eq_nil_iff] at nothing
  rw [nothing.1] at reports
  exact reports

/-- All names of two letters, for `2 ^ 10` letters. -/
def manyNames : List String :=
  (List.range 1048576).map fun number =>
    String.ofList [Char.ofNat (number / 1024), Char.ofNat (number % 1024)]

/-- The letters below the surrogates have distinct codes. -/
theorem code_eq_of_letter {left right : Nat} (leftLt : left < 1024) (rightLt : right < 1024)
    (same : Char.ofNat left = Char.ofNat right) : left = right := by
  have code {number : Nat} (numberLt : number < 1024) : (Char.ofNat number).toNat = number := by
    have valid : number.isValidChar := Or.inl (Nat.lt_trans numberLt (by decide))
    rw [Char.ofNat, dif_pos valid]
    rfl
  rw [← code leftLt, same, code rightLt]

theorem nodup_manyNames : manyNames.Nodup := by
  rw [manyNames, List.nodup_map_iff_inj_on List.nodup_range]
  intro number inside other otherInside same
  rw [List.mem_range] at inside otherInside
  obtain ⟨first, second⟩ := List.cons_eq_cons.mp (String.ofList_injective same)
  have quotients := code_eq_of_letter (by omega) (by omega) first
  have remainders := code_eq_of_letter (Nat.mod_lt _ (by decide)) (Nat.mod_lt _ (by decide))
    (List.cons_eq_cons.mp second).1
  omega

/-- A grammar with `2 ^ 20` non-terminals and a single rule is well declared, but the weights of all
pairs of non-terminals take `2 ^ 63` bytes, one more than an object may have. -/
theorem manyNames_abort_without_room :
    WellDeclared manyNames ["a"] [⟨.unary "SS" "a", (1 : ℚ)⟩] "SS" ∧
      TotalsFinite manyNames ["a"] [⟨.unary "SS" "a", (1 : ℚ)⟩] ∧
      compile manyNames ["a"] [⟨.unary "SS" "a", (1 : ℚ)⟩] "SS" = .error (.abort .allocation) := by
  have size : manyNames.length = 1048576 := by
    rw [manyNames, List.length_map, List.length_range]
  have named : "SS" ∈ manyNames :=
    List.mem_map.mpr ⟨83 * 1024 + 83, List.mem_range.mpr (by decide), by decide⟩
  have valid : ∀ rule ∈ [(⟨.unary "SS" "a", 1⟩ : WeightedRule ℚ)],
      Scalar.isWeight rule.weight = true := by
    decide +kernel
  have wellDeclared : WellDeclared manyNames ["a"] [⟨.unary "SS" "a", (1 : ℚ)⟩] "SS" :=
    { nonTerminals_nodup := nodup_manyNames
      nonTerminals_nonempty := List.ne_nil_of_mem named
      terminals_nodup := List.nodup_singleton _
      rules_nonempty := List.cons_ne_nil _ _
      weights := valid
      declared := List.forall_mem_singleton.mpr
        ⟨List.mem_toFinset.mpr named, List.mem_toFinset.mpr List.mem_cons_self⟩
      start_mem := named }
  have full : ¬ HasRoom manyNames.length ["a"].length := by
    rw [size]
    decide
  exact ⟨wellDeclared, totalsFinite_rational _ _ valid, compile_of_full wellDeclared full⟩

/-- Rules of which the first has an unknown symbol on its right-hand side, and the second a weight
that is not a number. -/
def misdeclaredRules : List (WeightedRule Float) :=
  [⟨.binary "S" "S" "a", 1.0⟩, ⟨.unary "S" "a", 0.0 / 0.0⟩]

/-- A grammar whose only rule has no weight is accepted; in the other rules the unknown symbol is
reported, because its rule comes first. -/
theorem weightless_accepted_misdeclared_reported :
    (∃ grammar, compile ["S"] ["a"] [⟨.unary "S" "a", (0.0 : Float)⟩] "S" = .ok grammar) ∧
      compile ["S"] ["a"] misdeclaredRules "T" = .error (.fault (.unknownSymbol "a")) ∧
      compileText ["S"] ["a"] [("S --> S a", (1.0 : Float)), ("S -->", 1.0)] "T" =
        .error (.fault (.parse (.missingRight "S"))) := by
  have zero : Scalar.isWeight (0 : Float) = true := by decide +kernel
  have one : Scalar.isWeight (1 : Float) = true := by decide +kernel
  have room : HasRoom 1 1 := by decide
  obtain ⟨withRoom, _⟩ := compile_accepts_wellDeclared_reports_first zero one ["S"] ["a"]
    [⟨.unary "S" "a", (0.0 : Float)⟩] "S"
    fun _ => ⟨by decide +kernel, by decide +kernel, by decide +kernel⟩
  obtain ⟨reported, _, _, unread⟩ := compile_accepts_wellDeclared_reports_first zero one ["S"] ["a"]
    misdeclaredRules "T" fun valid =>
      absurd (valid _ (List.mem_of_mem_tail List.mem_cons_self)) (by decide +kernel)
  refine ⟨(withRoom room).1.mpr (by decide +kernel),
    ((reported room).2 _).mpr (by decide +kernel),
    unread [("S --> S a", 1.0)] [] "S -->" 1.0 (.missingRight "S") ?_ (by decide +kernel)⟩
  exact List.forall_mem_singleton.mpr ⟨.binary "S" "S" "a", by decide +kernel⟩

end Grammar

end RecursiveBayes
