/-
This file compiles weighted grammars into networks. The network has one cell,
whose variable ranges over the non-terminals. All rules with one symbol on the
right fill one terminal transition, all rules with two symbols fill one binary
transition, and the total weights of the two groups are the action weights.
The prior puts all its weight on the start symbol.

A rule that occurs more than once counts with the sum of its weights. A
non-terminal without rules of a group has no weight in that transition, so it
never emits, or never splits.
-/

import RecursiveBayes.Grammar.Vocabulary
import RecursiveBayes.Network.Basic
import RecursiveBayes.Rule.Reader

namespace RecursiveBayes

/-- A production and its weight. -/
structure WeightedRule (α : Type) where
  production : Production
  weight : α

namespace WeightedRule

/-- Read the production of a weighted rule. The weight is taken as it is. -/
def parse {α : Type} (rule : String × α) : Built α (WeightedRule α) :=
  match Production.parse rule.1 with
  | .ok production => .ok ⟨production, rule.2⟩
  | .error fault => .error (.parse fault)

/-- Read a list of weighted rules. The first text that is no rule is reported. -/
def parseAll {α : Type} (rules : List (String × α)) : Built α (List (WeightedRule α)) :=
  rules.mapM parse

end WeightedRule

/-- A network that was compiled from rules over named symbols. -/
structure Grammar (α : Type) [Scalar α] where
  nonTerminals : Vocabulary
  terminals : Vocabulary
  network : Network α

namespace Grammar

variable {α : Type} [Scalar α]

/-! ### Collecting the weights of the rules -/

/-- The weights of the rules seen so far, by right-hand side and left-hand side. -/
structure Tally (α : Type) where
  /-- The weights over terminals and non-terminals, and whether there was such a rule. -/
  unary : Tensor α 1
  hasUnary : Bool
  /-- The weights over pairs of non-terminals and non-terminals, and whether there was such a
  rule. -/
  binary : Tensor α 2
  hasBinary : Bool

/-- The tally before the first rule. -/
def Tally.zero (nonTerminals terminals : Nat) : Tally α where
  unary := .zeros #v[terminals] nonTerminals
  hasUnary := false
  binary := .zeros #v[nonTerminals, nonTerminals] nonTerminals
  hasBinary := false

/-- The tally before the first rule, if the weights of all rules that there could be fit into
memory. -/
def Tally.allocate (nonTerminals terminals : Nat) : Checked (Tally α) := do
  Memory.reserve (terminals * nonTerminals) Memory.numberSize
  Memory.reserve (nonTerminals * nonTerminals * nonTerminals) Memory.numberSize
  return .zero nonTerminals terminals

/-- Add a rule to a tally. The weight is checked first, then the left-hand side, then the symbols
of the right-hand side from left to right. -/
def Tally.addRule (nonTerminals terminals : Vocabulary) (tally : Tally α)
    (rule : WeightedRule α) : Built α (Tally α) :=
  if Scalar.isWeight rule.weight then do
    let parent ← nonTerminals.lookup rule.production.lhs
    match rule.production with
    | .unary _ symbol =>
      let row ← terminals.lookup symbol
      return { tally with unary := tally.unary.addAt row parent rule.weight, hasUnary := true }
    | .binary _ left right =>
      let leftChild ← nonTerminals.lookup left
      let rightChild ← nonTerminals.lookup right
      let row := leftChild * nonTerminals.size + rightChild
      return { tally with binary := tally.binary.addAt row parent rule.weight, hasBinary := true }
  else
    malformed (.ruleWeight rule.production rule.weight)

/-! ### Building the network -/

/-- The terminal transition of a tally with its action weight, if there was a unary rule. -/
def Tally.terminalTransition (tally : Tally α) : Built α (List (Transition α × α)) :=
  if tally.hasUnary then do
    let transition ← TerminalTransition.build tally.unary
    return [(.terminal transition, tally.unary.total)]
  else
    return []

/-- The binary transition of a tally with its action weight, if there was a binary rule. -/
def Tally.binaryTransition (tally : Tally α) : Built α (List (Transition α × α)) :=
  if tally.hasBinary then do
    let transition ← BinaryTransition.build tally.binary none
    return [(.binary transition, tally.binary.total)]
  else
    return []

/-- The cell of a tally. There has to be a rule. -/
def Tally.cell (tally : Tally α) (nonTerminals : Nat) : Built α (Cell α) := do
  let terminal ← tally.terminalTransition
  let binary ← tally.binaryTransition
  let choices := terminal ++ binary
  if choices.isEmpty then
    malformed .noRules
  else
    let domain ← Variable.build nonTerminals
    Cell.build domain (choices.map Prod.snd) (choices.map Prod.fst)

/-- The weights that single out one place. -/
def oneHot (size place : Nat) : ValueVector α :=
  (ValueVector.zeros size).set place 1

/-- Declare the symbols of a grammar. Repeated declarations are reported first, then a missing
non-terminal. -/
def declare (nonTerminalNames terminalNames : List String) : Built α (Vocabulary × Vocabulary) := do
  let nonTerminals ← Vocabulary.build "non-terminal" nonTerminalNames
  let terminals ← Vocabulary.build "terminal" terminalNames
  if nonTerminals.isEmpty then
    malformed .noNonTerminals
  else
    return (nonTerminals, terminals)

/-- Build the grammar of some rules over declared symbols, starting from an empty tally. The rules
are reported in order, then missing rules, then an unknown start symbol. -/
def assemble (nonTerminals terminals : Vocabulary) (rules : List (WeightedRule α)) (start : String)
    (zero : Tally α) : Built α (Grammar α) := do
  let tally ← rules.foldlM (Tally.addRule nonTerminals terminals) zero
  let cell ← tally.cell nonTerminals.size
  let startNumber ← nonTerminals.lookup start
  let prior ← Prior.build [1] [oneHot nonTerminals.size startNumber]
  let network ← Network.build [cell] prior {}
  return ⟨nonTerminals, terminals, network⟩

/-- Compile weighted rules over declared symbols. The declarations are checked first. Then room is
made for the weights of all rules, and only then the rules are looked at. -/
def compile (nonTerminalNames terminalNames : List String) (rules : List (WeightedRule α))
    (start : String) : Outcome α (Grammar α) := do
  let (nonTerminals, terminals) ←
    (declare nonTerminalNames terminalNames : Built α (Vocabulary × Vocabulary))
  let zero ← Tally.allocate nonTerminals.size terminals.size
  assemble nonTerminals terminals rules start zero

/-- Compile rules that are given as text. All texts are read before anything is checked. -/
def compileText (nonTerminalNames terminalNames : List String) (rules : List (String × α))
    (start : String) : Outcome α (Grammar α) := do
  let productions ← WeightedRule.parseAll rules
  compile nonTerminalNames terminalNames productions start

end Grammar

end RecursiveBayes
