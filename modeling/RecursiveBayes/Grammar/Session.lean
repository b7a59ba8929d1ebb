/-
This file runs compiled grammars on sentences. The state between sentences holds
the words of the last one beside the workspace of the network. A word that the
grammar does not know is observed as no symbol, and so has probability zero.
-/

import RecursiveBayes.Grammar.Compile
import RecursiveBayes.Network.Inside

namespace RecursiveBayes

/-- The state of a grammar: the words of the last sentence and the workspace of the network. -/
structure GrammarState (α : Type) where
  words : List String
  workspace : Workspace α

/-- The state before the first sentence. -/
def GrammarState.initial {α : Type} : GrammarState α :=
  ⟨[], .initial⟩

namespace Grammar

variable {α : Type} [Scalar α]

/-- Run an action of the network on its part of the state. -/
def onWorkspace {β : Type} (action : Action α (Workspace α) β) :
    Action α (GrammarState α) β :=
  ExceptT.mk fun state =>
    let (result, workspace) := action.run.run state.workspace
    (result, { state with workspace := workspace })

/-- The observations of a sentence: the number of each word, if it is a terminal. -/
def observe (grammar : Grammar α) (words : List String) : TerminalChart :=
  ⟨words.map grammar.terminals.get?⟩

/-- The probability of a sentence. -/
def inside (grammar : Grammar α) (words : List String) : Action α (GrammarState α) α := do
  modify fun state => { state with words := words }
  onWorkspace (grammar.network.insideObserved (grammar.observe words))

end Grammar

end RecursiveBayes
