/-
This file reads a production from text with one token of lookahead. A reader
holds the token that comes next and the text behind it; it never sees the words
of the text as a list. The right-hand side is collected until the text ends, and
a second arrow is reported before the number of symbols is looked at.

The collecting loop ends because every token but the last was read from a word,
and reading a word shortens the text.
-/

import RecursiveBayes.Rule.Fault
import RecursiveBayes.Rule.Production
import RecursiveBayes.Text.Words

namespace RecursiveBayes

/-! ### Tokens -/

/-- What a word of a rule stands for. -/
inductive RuleToken where
  /-- Any word but the arrow. -/
  | symbol (name : String)
  /-- The word that separates the sides. -/
  | arrow
  /-- The text has no further word. -/
  | finish
  deriving DecidableEq

/-- The token that a word stands for. -/
def RuleToken.ofWord (word : List Char) : RuleToken :=
  if word = Production.arrow.toList then .arrow else .symbol (String.ofList word)

/-! ### The reader -/

/-- A position in the text of a rule: the token that comes next, and the text behind it. -/
structure RuleReader where
  /-- The token that the next step consumes. -/
  current : RuleToken
  /-- The text behind that token. -/
  unread : List Char

namespace RuleReader

/-- The reader whose next token is the first one of a text. -/
def ofText (text : List Char) : RuleReader :=
  match nextWord? text with
  | none => ⟨.finish, []⟩
  | some (word, rest) => ⟨RuleToken.ofWord word, rest⟩

/-- Consume the current token. At the end of the text the reader stays there. -/
def advance (reader : RuleReader) : RuleReader :=
  ofText reader.unread

/-- A bound on the tokens that are left before the end of the text. -/
def measure (reader : RuleReader) : Nat :=
  match reader.current with
  | .finish => 0
  | _ => reader.unread.length + 1

/-- Consuming any token but the end of the text brings the reader closer to it. -/
theorem measure_advance_lt (reader : RuleReader) (running : reader.current ≠ .finish) :
    reader.advance.measure < reader.measure := by
  have before : reader.measure = reader.unread.length + 1 := by
    unfold measure
    split
    · contradiction
    · rfl
  rw [before]
  unfold advance ofText
  split
  · exact Nat.succ_pos _
  · rename_i word rest read
    have shorter := length_lt_of_nextWord? read
    unfold measure
    split
    · exact Nat.succ_pos _
    · exact Nat.succ_lt_succ shorter

/-- Collect symbols up to the end of the text, behind those collected so far. An arrow among
them is a fault of the rule for `lhs`. -/
def symbolsToEnd (lhs : String) (collected : List String) (reader : RuleReader) :
    Except RuleFault (List String) :=
  match running : reader.current with
  | .finish => .ok collected
  | .arrow => .error (.unexpectedArrow lhs)
  | .symbol name =>
    have closer := reader.measure_advance_lt (by simp [running])
    symbolsToEnd lhs (collected ++ [name]) reader.advance
termination_by reader.measure

end RuleReader

/-! ### Productions from text -/

/-- The production with the given sides, if there are one or two symbols on the right. -/
def Production.ofSides (lhs : String) : List String → Except RuleFault Production
  | [] => .error (.missingRight lhs)
  | [symbol] => .ok (.unary lhs symbol)
  | [left, right] => .ok (.binary lhs left right)
  | symbols => .error (.tooManySymbols lhs symbols.length)

/-- Read the production that a text stands for. -/
def Production.parse (text : String) : Except RuleFault Production :=
  let start := RuleReader.ofText text.toList
  match start.current with
  | .finish => .error .empty
  | .arrow => .error .missingLeft
  | .symbol lhs =>
    let second := start.advance
    match second.current with
    | .arrow => do
      let symbols ← second.advance.symbolsToEnd lhs []
      Production.ofSides lhs symbols
    | _ => .error (.missingArrow lhs)

end RecursiveBayes
