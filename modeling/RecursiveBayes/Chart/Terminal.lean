/-
This file holds the observations of a sequence: at each position a symbol, or
nothing if what was observed is not a symbol of the vocabulary.
-/

import RecursiveBayes.Failure.Fault

namespace RecursiveBayes

/-- The observed symbols, one per position. -/
structure TerminalChart where
  symbols : List (Option Nat)
  deriving DecidableEq

namespace TerminalChart

/-- The chart of a sequence that holds known symbols only. -/
def ofSymbols (symbols : List Nat) : TerminalChart :=
  ⟨symbols.map some⟩

/-- The chart of the empty sequence. -/
def empty : TerminalChart :=
  ⟨[]⟩

/-- The number of positions. -/
def length (chart : TerminalChart) : Nat :=
  chart.symbols.length

/-- There is no position. -/
def isEmpty (chart : TerminalChart) : Bool :=
  chart.symbols.isEmpty

/-- The observation at a position. The position after it has to be a word, because a missing
position is reported as a span. -/
def symbol {α : Type} (chart : TerminalChart) (position : Nat) : Outcome α (Option Nat) := do
  let next ← Word.add position 1
  match chart.symbols[position]? with
  | some observation => return observation
  | none => throw (.fault (.invalidLocation ⟨position, next⟩ chart.length))

end TerminalChart

end RecursiveBayes
