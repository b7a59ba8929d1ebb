/-
This file shows a chart in the names of its grammar. A named chart lists the spans
whose inside vector is not zero throughout, the longest first and those of one
length by their start, and for each span the non-terminals with a probability
other than zero in their order of declaration. Its written form has one line per
span, with the words that the span covers in quotes.
-/

import RecursiveBayes.Grammar.Session

namespace RecursiveBayes

/-- The probabilities other than zero of a chart, by span and name. -/
structure NamedChart (α : Type) where
  words : List String
  /-- The spans, and for each the names with their probabilities. -/
  entries : List (Span × List (String × α))
  deriving DecidableEq

namespace Grammar

variable {α : Type} [Scalar α]

/-- The named entries of an inside vector that are not zero. -/
def nameEntries (grammar : Grammar α) (vector : ValueVector α) : List (String × α) :=
  vector.zipIdx.filterMap fun entry =>
    if Scalar.isZero entry.1 then
      none
    else
      (grammar.nonTerminals.resolve? entry.2).map fun name => (name, entry.1)

/-- The named entries of a span, if the span was computed and some of them are not zero. -/
def nameSpan (grammar : Grammar α) (chart : InsideChart α) (span : Span) :
    Option (Span × List (String × α)) := do
  let vector ← chart.get? 0 span
  let named := grammar.nameEntries vector
  if named.isEmpty then none else some (span, named)

/-- All spans of a sequence, the longest first and those of one length by their start. -/
def spansByDescendingLength (sequenceLength : Nat) : List Span :=
  (List.range sequenceLength).reverse.flatMap fun shorter =>
    SpanSchedule.spansOfLength sequenceLength (shorter + 1)

/-- The chart of the last sentence in the names of the grammar. -/
def namedChart (grammar : Grammar α) (state : GrammarState α) : NamedChart α where
  words := state.words
  entries := (spansByDescendingLength state.workspace.chart.sequenceLength).filterMap
    (grammar.nameSpan state.workspace.chart)

end Grammar

namespace NamedChart

variable {α : Type}

/-- The probability of a name over a span, and zero where the chart lists none. -/
def get [Scalar α] (chart : NamedChart α) (span : Span) (name : String) : α :=
  match chart.entries.find? fun entry => entry.1 = span with
  | none => 0
  | some entry =>
    match entry.2.find? fun named => named.1 = name with
    | none => 0
    | some named => named.2

/-- The words that a span covers, with single spaces between them. A span that the sentence does
not have covers none. -/
def covered (chart : NamedChart α) (span : Span) : String :=
  if span.start ≤ span.stop ∧ span.stop ≤ chart.words.length then
    " ".intercalate ((chart.words.drop span.start).take (span.stop - span.start))
  else
    ""

/-- One line of the written form: the span, the words it covers, and the names with their
probabilities to three places. -/
def renderEntry [ScalarText α] (chart : NamedChart α) (entry : Span × List (String × α)) :
    String :=
  entry.1.render ++ " \"" ++ chart.covered entry.1 ++ "\":" ++
    String.join (entry.2.map fun named =>
      " " ++ named.1 ++ "=" ++ ScalarText.scientific 3 named.2) ++ "\n"

/-- The written form of a chart. -/
def render [ScalarText α] (chart : NamedChart α) : String :=
  String.join (chart.entries.map chart.renderEntry)

end NamedChart

end RecursiveBayes
