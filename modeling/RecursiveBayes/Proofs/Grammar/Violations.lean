/-
This file lays out side by side what can be wrong with the declaration of a grammar.
Compiling a grammar is a sequence of checks, each of which ends it. Here everything that
is wrong is listed in the order in which it is looked at: names that are declared
twice, then a missing non-terminal, then the rules one by one, then missing rules and an
unknown start symbol. A check reports the head of its list, and lists of consecutive
checks are appended. The faults of the symbols are kept apart from those of the rules,
because room for the weights is made in between.
-/

import RecursiveBayes.Proofs.Grammar.Numbering
import RecursiveBayes.Proofs.Grammar.RuleWeights
import RecursiveBayes.Proofs.Protocol.Running

namespace RecursiveBayes

/-! ### Outcomes of checks -/

/-- An outcome that is a value if there are no faults, and the first fault if there are. -/
def Reports {ε β : Type} (faults : List ε) (outcome : Except ε β) : Prop :=
  match faults with
  | [] => ∃ value, outcome = .ok value
  | fault :: _ => outcome = .error fault

namespace Reports

variable {ε β γ : Type} {faults others : List ε} {outcome : Except ε β}

theorem exists_ok_iff (reports : Reports faults outcome) :
    (∃ value, outcome = .ok value) ↔ faults = [] := by
  cases faults with
  | nil => exact ⟨fun _ => rfl, fun _ => reports⟩
  | cons fault rest =>
    cases reports
    exact ⟨fun ⟨_, same⟩ => (nomatch same), fun same => (nomatch same)⟩

theorem eq_error_iff (reports : Reports faults outcome) {fault : ε} :
    outcome = .error fault ↔ faults.head? = some fault := by
  cases faults with
  | nil =>
    obtain ⟨value, rfl⟩ := reports
    exact ⟨fun same => (nomatch same), fun same => (nomatch same)⟩
  | cons first rest =>
    cases reports
    rw [List.head?_cons, Except.error.injEq, Option.some.injEq]

/-- What a second check reports counts only after the first one has nothing to report. -/
theorem bind {next : β → Except ε γ} (reports : Reports faults outcome)
    (later : ∀ value, outcome = .ok value → Reports others (next value)) :
    Reports (faults ++ others) (outcome >>= next) := by
  cases faults with
  | nil =>
    obtain ⟨value, rfl⟩ := reports
    exact later value rfl
  | cons fault rest =>
    cases reports
    rfl

/-- What never fails reports nothing. -/
theorem bind_ok {next : β → Except ε γ} (reports : Reports faults outcome)
    (later : ∀ value, outcome = .ok value → ∃ result, next value = .ok result) :
    Reports faults (outcome >>= next) := by
  have both : Reports (faults ++ []) (outcome >>= next) := reports.bind later
  rwa [List.append_nil] at both

/-- What is reported by building something is reported by the request for it. -/
theorem lift {α : Type} {faults : List (Fault α)} {built : Built α β}
    (reports : Reports faults built) :
    Reports (faults.map .fault) (liftM built : Outcome α β) := by
  cases faults with
  | nil =>
    obtain ⟨value, rfl⟩ := reports
    exact ⟨value, rfl⟩
  | cons fault rest =>
    cases reports
    rfl

/-- The checks of a list report what the checks of its items report, one after the other. -/
theorem foldlM {items : List γ} {step : β → γ → Except ε β} {each : γ → List ε}
    (reports : ∀ carried item, Reports (each item) (step carried item)) (start : β) :
    Reports (items.flatMap each) (items.foldlM step start) := by
  induction items generalizing start with
  | nil => exact ⟨start, rfl⟩
  | cons item rest inductionHypothesis =>
    rw [List.flatMap_cons, List.foldlM_cons]
    exact (reports start item).bind fun next _ => inductionHypothesis next

end Reports

/-! ### What is wrong with names -/

namespace Vocabulary

/-- The names that repeat an earlier one. -/
def repeats (names : List String) : List String :=
  (names.zipIdx.filter fun entry => entry.1 ∈ names.take entry.2).map Prod.fst

/-- The search for a repeated name, behind some names that were seen. -/
theorem firstRepeated?_eq_head? (front back : List String) {seen : List String}
    (same : ∀ name, name ∈ seen ↔ name ∈ front) :
    firstRepeated? seen back =
      (((back.zipIdx front.length).filter fun entry =>
        entry.1 ∈ (front ++ back).take entry.2).map Prod.fst).head? := by
  induction back generalizing front seen with
  | nil => rfl
  | cons name rest inductionHypothesis =>
    have taken : (front ++ name :: rest).take front.length = front := List.take_left
    rw [firstRepeated?, List.zipIdx_cons, List.filter_cons]
    simp only [taken]
    by_cases repeated : name ∈ front
    · rw [if_pos ((same name).mpr repeated), if_pos (decide_eq_true repeated)]
      rfl
    · rw [if_neg fun inSeen => repeated ((same name).mp inSeen),
        if_neg (by rwa [decide_eq_true_eq])]
      have later := @inductionHypothesis (front ++ [name]) (name :: seen) fun other => by
        rw [List.mem_cons, List.mem_append, List.mem_singleton, same, or_comm]
      rw [List.length_append, List.length_singleton, List.append_assoc, List.singleton_append]
        at later
      exact later

theorem firstRepeated?_eq_head?_repeats (names : List String) :
    firstRepeated? [] names = (repeats names).head? :=
  firstRepeated?_eq_head? [] names fun _ => Iff.rfl

theorem repeats_eq_nil_iff {names : List String} : repeats names = [] ↔ names.Nodup := by
  rw [← List.head?_eq_none_iff, ← firstRepeated?_eq_head?_repeats]
  constructor
  · exact fun distinct => (distinct_of_firstRepeated? distinct).1
  · exact fun nodup => firstRepeated?_eq_none nodup fun _ _ => List.not_mem_nil

variable {α : Type}

theorem reports_build (kind : String) (names : List String) :
    Reports ((repeats names).map fun name => .malformed (.duplicateSymbol kind name))
      (build kind names : Built α Vocabulary) := by
  have first := firstRepeated?_eq_head?_repeats names
  rw [build]
  split
  · rename_i name repeated
    rw [repeated, eq_comm, List.head?_eq_some_iff] at first
    obtain ⟨rest, here⟩ := first
    rw [here]
    rfl
  · rename_i distinct
    rw [distinct, eq_comm, List.head?_eq_none_iff] at first
    rw [first]
    exact ⟨_, rfl⟩

/-- The symbols that are not among the declared names. -/
def undeclared (names symbols : List String) : List (Fault α) :=
  (symbols.filter fun symbol => symbol ∉ names).map .unknownSymbol

theorem undeclared_eq_nil_iff {names symbols : List String} :
    (undeclared names symbols : List (Fault α)) = [] ↔ ∀ symbol ∈ symbols, symbol ∈ names := by
  simp only [undeclared, List.map_eq_nil_iff, List.filter_eq_nil_iff, decide_eq_true_eq, not_not]

theorem undeclared_cons (names : List String) (symbol : String) (rest : List String) :
    (undeclared names (symbol :: rest) : List (Fault α)) =
      undeclared names [symbol] ++ undeclared names rest := by
  rw [undeclared, undeclared, undeclared, ← List.map_append, ← List.filter_append,
    List.singleton_append]

theorem reports_lookup (vocabulary : Vocabulary) (name : String) :
    Reports (undeclared vocabulary.names [name]) (vocabulary.lookup name : Built α Nat) := by
  by_cases member : name ∈ vocabulary.names
  · obtain ⟨number, found⟩ := exists_get?_of_mem member
    rw [undeclared_eq_nil_iff.mpr fun symbol single => List.mem_singleton.mp single ▸ member]
    exact ⟨number, lookup_eq_ok_iff.mpr found⟩
  · have absent : vocabulary.get? name = none := List.idxOf?_eq_none_iff.mpr member
    rw [undeclared, List.filter_cons, if_pos (decide_eq_true member), lookup, absent]
    rfl

end Vocabulary

/-! ### What is wrong with the symbols -/

variable {α : Type}

open Vocabulary

namespace Grammar

/-- What is wrong with the symbols of a grammar: names that are declared twice, and then a missing
non-terminal. -/
def symbolFaults (nonTerminals terminals : List String) : List (Fault α) :=
  (repeats nonTerminals).map (fun name => .malformed (.duplicateSymbol "non-terminal" name)) ++
  (repeats terminals).map (fun name => .malformed (.duplicateSymbol "terminal" name)) ++
  (if nonTerminals = [] then [.malformed .noNonTerminals] else [])

/-- Declaring symbols reports what is wrong with them. -/
theorem reports_declare (nonTerminalNames terminalNames : List String) :
    Reports (symbolFaults nonTerminalNames terminalNames)
      (declare nonTerminalNames terminalNames : Built α (Vocabulary × Vocabulary)) := by
  rw [symbolFaults, declare, List.append_assoc]
  refine (reports_build "non-terminal" nonTerminalNames).bind fun nonTerminals built => ?_
  refine (reports_build "terminal" terminalNames).bind fun terminals _ => ?_
  obtain rfl := build_eq_ok_iff.mp built
  have empty_iff : nonTerminals.isEmpty = true ↔ nonTerminals.names = [] := List.isEmpty_iff
  by_cases empty : nonTerminals.names = []
  · rw [if_pos empty, if_pos (empty_iff.mpr empty)]
    rfl
  · rw [if_neg empty, if_neg fun isEmpty => empty (empty_iff.mp isEmpty)]
    exact ⟨_, rfl⟩

end Grammar

/-! ### What is wrong with a declaration -/

variable [Scalar α]

/-- What is wrong with a rule: its weight, its left-hand side, and the symbols of its right-hand
side from left to right. -/
def WeightedRule.violations (nonTerminals terminals : List String) (rule : WeightedRule α) :
    List (Fault α) :=
  (if Scalar.isWeight rule.weight then []
    else [.malformed (.ruleWeight rule.production rule.weight)]) ++
  undeclared nonTerminals [rule.production.lhs] ++
  undeclared (if rule.production.isUnary then terminals else nonTerminals) rule.production.rhs

namespace Grammar

/-- What is wrong with the rules of a grammar over some symbols: the rules one by one, and then
missing rules and an unknown start symbol. -/
def ruleFaults (nonTerminals terminals : List String) (rules : List (WeightedRule α))
    (start : String) : List (Fault α) :=
  rules.flatMap (WeightedRule.violations nonTerminals terminals) ++
  (if rules = [] then [.malformed .noRules] else []) ++
  undeclared nonTerminals [start]

/-- What is wrong with the declaration of a grammar, in the order in which it is checked. -/
def violations (nonTerminals terminals : List String) (rules : List (WeightedRule α))
    (start : String) : List (Fault α) :=
  symbolFaults nonTerminals terminals ++ ruleFaults nonTerminals terminals rules start

/-- A grammar that is declared as it should be. -/
structure WellDeclared (nonTerminals terminals : List String) (rules : List (WeightedRule α))
    (start : String) : Prop where
  nonTerminals_nodup : nonTerminals.Nodup
  nonTerminals_nonempty : nonTerminals ≠ []
  terminals_nodup : terminals.Nodup
  rules_nonempty : rules ≠ []
  weights : ∀ rule ∈ rules, Scalar.isWeight rule.weight = true
  /-- The left-hand sides and all symbols in pairs are non-terminals, single symbols are
  terminals. -/
  declared : ∀ rule ∈ rules, rule.production.Declared nonTerminals.toFinset terminals.toFinset
  start_mem : start ∈ nonTerminals

/-! ### Nothing is wrong -/

theorem violations_rule_eq_nil_iff {nonTerminals terminals : List String}
    {rule : WeightedRule α} :
    rule.violations nonTerminals terminals = [] ↔ Scalar.isWeight rule.weight = true ∧
      rule.production.Declared nonTerminals.toFinset terminals.toFinset := by
  rw [WeightedRule.violations, List.append_eq_nil_iff, List.append_eq_nil_iff, and_assoc]
  refine and_congr ?_ ?_
  · split
    · rename_i valid
      exact iff_of_true rfl valid
    · rename_i invalid
      exact iff_of_false (List.cons_ne_nil _ _) invalid
  · rw [undeclared_eq_nil_iff, undeclared_eq_nil_iff]
    cases rule.production <;>
      simp [Production.lhs, Production.rhs, Production.isUnary, Production.Declared]

/-- A declaration is as it should be exactly if nothing is wrong with it. -/
theorem violations_eq_nil_iff {nonTerminals terminals : List String}
    {rules : List (WeightedRule α)} {start : String} :
    violations nonTerminals terminals rules start = [] ↔
      WellDeclared nonTerminals terminals rules start := by
  have single (wrong : Prop) [Decidable wrong] (fault : Fault α) :
      (if wrong then [fault] else []) = [] ↔ ¬ wrong := by
    split <;> simp [*]
  simp only [violations, symbolFaults, ruleFaults, List.append_eq_nil_iff, List.map_eq_nil_iff,
    repeats_eq_nil_iff, single, List.flatMap_eq_nil_iff, violations_rule_eq_nil_iff,
    undeclared_eq_nil_iff, List.mem_singleton, forall_eq]
  constructor
  · rintro ⟨⟨⟨nodup, terminalsNodup⟩, nonempty⟩, ⟨each, someRule⟩, startMem⟩
    exact ⟨nodup, nonempty, terminalsNodup, someRule, fun rule member => (each rule member).1,
      fun rule member => (each rule member).2, startMem⟩
  · intro wellDeclared
    exact ⟨⟨⟨wellDeclared.nonTerminals_nodup, wellDeclared.terminals_nodup⟩,
      wellDeclared.nonTerminals_nonempty⟩, ⟨fun rule member =>
        ⟨wellDeclared.weights rule member, wellDeclared.declared rule member⟩,
      wellDeclared.rules_nonempty⟩, wellDeclared.start_mem⟩

instance (nonTerminals terminals : List String) (rules : List (WeightedRule α))
    (start : String) : Decidable (WellDeclared nonTerminals terminals rules start) :=
  decidable_of_iff ((violations nonTerminals terminals rules start).isEmpty = true)
    (List.isEmpty_iff.trans violations_eq_nil_iff)

/-! ### The checks of the rules -/

/-- A rule is looked at from its weight to the last symbol of its right-hand side. -/
theorem reports_addRule (nonTerminals terminals : Vocabulary) (tally : Tally α)
    (rule : WeightedRule α) :
    Reports (rule.violations nonTerminals.names terminals.names)
      (Tally.addRule nonTerminals terminals tally rule) := by
  obtain ⟨production, weight⟩ := rule
  rw [WeightedRule.violations, Tally.addRule, List.append_assoc]
  by_cases valid : Scalar.isWeight weight = true
  · rw [if_pos valid, if_pos valid, List.nil_append]
    refine (reports_lookup nonTerminals production.lhs).bind fun parent _ => ?_
    cases production with
    | unary lhs symbol =>
      exact (reports_lookup terminals symbol).bind_ok fun row _ => ⟨_, rfl⟩
    | binary lhs left right =>
      simp only [Production.isUnary, Bool.false_eq_true, if_false, Production.rhs]
      rw [undeclared_cons]
      refine (reports_lookup nonTerminals left).bind fun leftChild _ => ?_
      exact (reports_lookup nonTerminals right).bind_ok fun rightChild _ => ⟨_, rfl⟩
  · rw [if_neg valid, if_neg valid]
    rfl

end Grammar

end RecursiveBayes
