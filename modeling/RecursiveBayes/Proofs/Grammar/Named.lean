/-
This file says what the named chart of a grammar shows. A state of a grammar keeps the
words of the last sentence apart from the chart that was computed for it; after any
sequence of sentences the two are of one length, and the chart has a vector for every
span. The named chart of such a state is then another view of these vectors: it lists
each component that is not zero once, under the name of its number, and what it is
asked for is the component that stands in the chart.

The lists are searched from the front. That the first entry found is the only one
rests on the names being distinct, and on each span being listed at most once.
-/

import RecursiveBayes.Grammar.NamedChart
import RecursiveBayes.Proofs.Grammar.Faithful
import RecursiveBayes.Proofs.Network.History
import RecursiveBayes.Proofs.Search
import RecursiveBayes.Scalar.Binary64

open RecursiveBayes.Action

namespace RecursiveBayes

/-! ### Spans, the longest first -/

/-- The order of a named chart: by descending length, and by start within one length. -/
def Span.ShownBefore (first second : Span) : Prop :=
  second.stop - second.start < first.stop - first.start ∨
    (first.stop - first.start = second.stop - second.start ∧ first.start < second.start)

theorem Span.ShownBefore.ne {first second : Span} (before : first.ShownBefore second) :
    first ≠ second := by
  rintro rfl
  rcases before with shorter | ⟨_, later⟩
  · exact Nat.lt_irrefl _ shorter
  · exact Nat.lt_irrefl _ later

namespace Grammar

theorem mem_spansByDescendingLength {length : Nat} {span : Span} :
    span ∈ spansByDescendingLength length ↔ span.Within length := by
  simp only [spansByDescendingLength, List.mem_flatMap, List.mem_reverse, List.mem_range,
    SpanSchedule.mem_spansOfLength]
  constructor
  · rintro ⟨_, _, within, _⟩
    exact within
  · intro within
    obtain ⟨proper, inside⟩ := within
    exact ⟨span.stop - span.start - 1, by omega, ⟨proper, inside⟩, by omega⟩

theorem pairwise_spansByDescendingLength (length : Nat) :
    (spansByDescendingLength length).Pairwise Span.ShownBefore := by
  rw [spansByDescendingLength, List.pairwise_flatMap]
  constructor
  · intro shorter _
    rw [SpanSchedule.spansOfLength, List.pairwise_map]
    refine List.pairwise_lt_range.imp fun {start next} before => Or.inr ⟨?_, before⟩
    rw [Nat.add_sub_cancel_left, Nat.add_sub_cancel_left]
  · rw [List.pairwise_reverse]
    refine List.pairwise_lt_range.imp fun {shorter longer} less => ?_
    intro first firstMember second secondMember
    have firstLength := (SpanSchedule.mem_spansOfLength.mp firstMember).2
    have secondLength := (SpanSchedule.mem_spansOfLength.mp secondMember).2
    exact Or.inl (by omega)

/-! ### Quoted words -/

/-- The words that a span of a sentence covers are those from its start to its stop. -/
theorem exists_append_wordsIn {words : List String} {span : Span}
    (within : span.Within words.length) :
    ∃ before after, words = before ++ wordsIn words span ++ after ∧
      before.length = span.start ∧ (wordsIn words span).length = span.stop - span.start := by
  obtain ⟨proper, inside⟩ := within
  refine ⟨words.take span.start, (words.drop span.start).drop (span.stop - span.start), ?_, ?_, ?_⟩
  · rw [wordsIn, List.append_assoc, List.take_append_drop, List.take_append_drop]
  · rw [List.length_take]
    omega
  · rw [wordsIn, List.length_take, List.length_drop]
    omega

theorem covered_eq {α : Type} {chart : NamedChart α} {span : Span}
    (within : span.Within chart.words.length) :
    chart.covered span = " ".intercalate (wordsIn chart.words span) :=
  if_pos ⟨Nat.le_of_lt within.1, within.2⟩

variable {α : Type} [Scalar α] {grammar : Grammar α}

/-! ### Entries of one vector -/

/-- The places of a vector from some place on, in the names from that place on. -/
theorem filterMap_zipIdx_eq (front back : List String) (vector : ValueVector α)
    (lengths : vector.length = back.length) :
    ((vector.zipIdx front.length).filterMap fun entry =>
        if Scalar.isZero entry.1 then
          none
        else
          ((front ++ back)[entry.2]?).map fun name => (name, entry.1)) =
      (back.zip vector).filter fun named => !Scalar.isZero named.2 := by
  induction vector generalizing front back with
  | nil =>
    rw [List.zip_nil_right]
    rfl
  | cons component rest inductionHypothesis =>
    cases back with
    | nil => cases lengths
    | cons name others =>
      have here : (front ++ name :: others)[front.length]? = some name := by
        rw [List.getElem?_append_right (Nat.le_refl _), Nat.sub_self, List.getElem?_cons_zero]
      have later := inductionHypothesis (front ++ [name]) others (Nat.succ.inj lengths)
      rw [List.length_append, List.length_singleton, List.append_assoc, List.singleton_append]
        at later
      rw [List.zipIdx_cons, List.filterMap_cons, List.zip_cons_cons, List.filter_cons, later]
      cases isZero : Scalar.isZero component with
      | true => simp only [if_true, Bool.not_true, Bool.false_eq_true, if_false]
      | false =>
        simp only [here, Option.map_some, Bool.not_false, Bool.false_eq_true, if_false, if_true]

/-- The named entries of a vector are its components that are not zero, with their names, in the
order of declaration. -/
theorem nameEntries_eq {vector : ValueVector α}
    (lengths : vector.length = grammar.nonTerminals.size) :
    grammar.nameEntries vector =
      (grammar.nonTerminals.names.zip vector).filter fun named => !Scalar.isZero named.2 :=
  filterMap_zipIdx_eq [] grammar.nonTerminals.names vector lengths

theorem mem_nameEntries_iff {vector : ValueVector α} {name : String} {component : α} :
    (name, component) ∈ grammar.nameEntries vector ↔
      ∃ number : Nat, grammar.nonTerminals.names[number]? = some name ∧
        vector[number]? = some component ∧ Scalar.isZero component = false := by
  simp only [nameEntries, List.mem_filterMap, Option.ite_none_left_eq_some, Bool.not_eq_true,
    Option.map_eq_some_iff, Prod.mk.injEq, Prod.exists, List.mem_zipIdx_iff_getElem?,
    Vocabulary.resolve?]
  constructor
  · rintro ⟨_, number, here, nonzero, _, found, rfl, rfl⟩
    exact ⟨number, found, here, nonzero⟩
  · rintro ⟨number, found, here, nonzero⟩
    exact ⟨component, number, here, nonzero, name, found, rfl, rfl⟩

/-- What is listed under a declared name is the component with its number, if it is not zero. -/
theorem find?_nameEntries {vector : ValueVector α} {name : String} {number : Nat} {component : α}
    (declared : grammar.nonTerminals.names[number]? = some name)
    (here : vector[number]? = some component) :
    (grammar.nameEntries vector).find? (fun named => named.1 = name) =
      if Scalar.isZero component then none else some (name, component) := by
  -- The name has one number only, so nothing but the component is listed under it.
  have only : ∀ named ∈ grammar.nameEntries vector, named.1 = name →
      named = (name, component) ∧ Scalar.isZero component = false := by
    rintro ⟨_, other⟩ member rfl
    obtain ⟨otherNumber, otherDeclared, otherHere, nonzero⟩ := mem_nameEntries_iff.mp member
    have same : number = otherNumber := (Vocabulary.number_eq_iff
      (grammar.nonTerminals.get?_eq_some_iff.mpr declared)
      (grammar.nonTerminals.get?_eq_some_iff.mpr otherDeclared)).mpr rfl
    subst same
    cases here.symm.trans otherHere
    exact ⟨rfl, nonzero⟩
  cases isZero : Scalar.isZero component with
  | true =>
    rw [if_pos rfl, List.find?_eq_none]
    intro named member named_so
    cases isZero.symm.trans (only named member (of_decide_eq_true named_so)).2
  | false =>
    rw [if_neg Bool.false_ne_true]
    refine find?_eq_some_of_unique (mem_nameEntries_iff.mpr ⟨number, declared, here, isZero⟩)
      (decide_eq_true rfl) fun named member named_so => ?_
    exact (only named member (of_decide_eq_true named_so)).1

/-! ### Entries of a chart -/

theorem nameSpan_eq_some_iff {chart : InsideChart α} {span : Span}
    {entry : Span × List (String × α)} :
    grammar.nameSpan chart span = some entry ↔
      ∃ vector, chart.get? 0 span = some vector ∧ grammar.nameEntries vector ≠ [] ∧
        entry = (span, grammar.nameEntries vector) := by
  rw [nameSpan, Option.bind_eq_bind, Option.bind_eq_some_iff]
  refine exists_congr fun vector => and_congr_right fun _ => ?_
  rw [Option.ite_none_left_eq_some, List.isEmpty_iff, Option.some.injEq]
  exact and_congr_right fun _ => eq_comm

variable {state : GrammarState α}

theorem mem_namedChart_iff {entry : Span × List (String × α)} :
    entry ∈ (grammar.namedChart state).entries ↔
      grammar.nameSpan state.workspace.chart entry.1 = some entry := by
  rw [namedChart, List.mem_filterMap]
  constructor
  · rintro ⟨span, _, shown⟩
    obtain ⟨_, _, _, rfl⟩ := nameSpan_eq_some_iff.mp shown
    exact shown
  · intro shown
    obtain ⟨_, found, _, _⟩ := nameSpan_eq_some_iff.mp shown
    exact ⟨entry.1, mem_spansByDescendingLength.mpr (InsideChart.within_of_get? found), shown⟩

theorem pairwise_namedChart (grammar : Grammar α) (state : GrammarState α) :
    (grammar.namedChart state).entries.Pairwise fun first second =>
      first.1.ShownBefore second.1 := by
  refine (pairwise_spansByDescendingLength _).filterMap _ ?_
  intro span other before first firstShown second secondShown
  obtain ⟨_, _, _, rfl⟩ := nameSpan_eq_some_iff.mp firstShown
  obtain ⟨_, _, _, rfl⟩ := nameSpan_eq_some_iff.mp secondShown
  exact before

/-- What is listed for a span is made from the vector of this span. -/
theorem find?_namedChart (span : Span) :
    (grammar.namedChart state).entries.find? (fun entry => entry.1 = span) =
      grammar.nameSpan state.workspace.chart span := by
  have only : ∀ entry ∈ (grammar.namedChart state).entries, entry.1 = span →
      grammar.nameSpan state.workspace.chart span = some entry := by
    rintro entry member rfl
    exact mem_namedChart_iff.mp member
  cases shown : grammar.nameSpan state.workspace.chart span with
  | none =>
    rw [List.find?_eq_none]
    intro entry member here
    cases shown.symm.trans (only entry member (of_decide_eq_true here))
  | some entry =>
    obtain ⟨_, _, _, same⟩ := nameSpan_eq_some_iff.mp shown
    have spanIs : entry.1 = span := congrArg Prod.fst same
    refine find?_eq_some_of_unique (mem_namedChart_iff.mpr (spanIs.symm ▸ shown))
      (decide_eq_true spanIs) fun other member here => ?_
    exact Option.some.inj ((only other member (of_decide_eq_true here)).symm.trans shown)

theorem get_namedChart_of_none {span : Span}
    (absent : state.workspace.chart.get? 0 span = none) (name : String) :
    (grammar.namedChart state).get span name = 0 := by
  rw [NamedChart.get, find?_namedChart, nameSpan, absent]
  rfl

theorem get_namedChart_of_some {span : Span} {vector : ValueVector α}
    (found : state.workspace.chart.get? 0 span = some vector) (name : String) :
    (grammar.namedChart state).get span name =
      match (grammar.nameEntries vector).find? fun named => named.1 = name with
      | none => 0
      | some named => named.2 := by
  rw [NamedChart.get, find?_namedChart, nameSpan, found]
  cases listed : grammar.nameEntries vector with
  | nil =>
    simp only [Option.bind_eq_bind, Option.bind_some, listed]
    rfl
  | cons first rest =>
    simp only [Option.bind_eq_bind, Option.bind_some, listed]
    rfl

/-! ### States between sentences -/

/-- The states that a grammar can come to: before the first sentence, and after any sequence of
sentences. An abort is not returned to the caller, so no sentence follows one. -/
inductive Reachable (grammar : Grammar α) : GrammarState α → Prop
  | initial : grammar.Reachable .initial
  | inside {state : GrammarState α} (words : List String) (reachable : grammar.Reachable state)
      (returned : Returned (runOn (grammar.inside words) state).1) :
    grammar.Reachable (runOn (grammar.inside words) state).2

/-- The words and the chart belong together, and the chart is complete. -/
structure Settled (grammar : Grammar α) (state : GrammarState α) : Prop where
  words : state.words.length = state.workspace.chart.sequenceLength
  vectors : ∀ span, span.Within state.workspace.chart.sequenceLength →
    ∃ vector, state.workspace.chart.get? 0 span = some vector ∧
      vector.length = grammar.nonTerminals.size

variable {nonTerminalNames terminalNames : List String} {rules : List (WeightedRule α)}
  {start : String}

theorem settled_initial (grammar : Grammar α) : grammar.Settled .initial where
  words := rfl
  vectors span within :=
    absurd (Nat.lt_of_lt_of_le within.1 within.2) (Nat.not_lt_zero span.start)

/-- Every sentence leaves its words and the complete chart for them, whatever was there before. -/
theorem settled_inside
    (compiled : compile nonTerminalNames terminalNames rules start = .ok grammar)
    (words : List String) (before : GrammarState α)
    (returned : Returned (runOn (grammar.inside words) before).1) :
    grammar.Settled (runOn (grammar.inside words) before).2 := by
  obtain ⟨_, _, _, cell, _, _, cellMade, _, cells, _, _, configuration⟩ :=
    of_compile_eq_ok compiled
  have accepted : grammar.network.accepts (grammar.observe words).length = true := by
    rw [Network.accepts, configuration]
    rfl
  have found : grammar.network.cells[0]? = some cell := by
    rw [cells]
    rfl
  have known : 0 < grammar.network.cellCount := by
    rw [Network.cellCount, cells]
    exact Nat.zero_lt_one
  have lengths : (grammar.observe words).length = words.length := List.length_map _
  rw [runOn_inside_eq] at returned ⊢
  have fits := Network.fits_of_returned accepted returned
  obtain ⟨after, ran, holds⟩ :=
    Network.runOn_insideObserved_holds accepted fits before.workspace
  obtain ⟨agrees, _⟩ := Network.agrees_of_insideObserved ran
  rw [ran]
  refine ⟨(agrees.sequenceLength.trans lengths).symm, fun span within => ?_⟩
  refine ⟨_, holds 0 span known (agrees.sequenceLength ▸ within), ?_⟩
  rw [grammar.network.length_insideVector found]
  exact (Tally.of_cell_eq_ok cellMade).1

theorem Reachable.settled
    (compiled : compile nonTerminalNames terminalNames rules start = .ok grammar)
    {state : GrammarState α} (reachable : grammar.Reachable state) : grammar.Settled state := by
  cases reachable with
  | initial => exact grammar.settled_initial
  | inside words _ returned => exact settled_inside compiled words _ returned

/-! ### The view -/

end Grammar

variable {α : Type} [Scalar α]

/-- A named chart shows the vectors of the first variable of a chart, with the given names for their
components. -/
structure NamedChart.Shows (names : List String) (chart : InsideChart α)
    (named : NamedChart α) : Prop where
  /-- A name has its component of the vector of a span. Zeros are read as the number zero. -/
  get_declared : ∀ span, span.Within chart.sequenceLength →
    ∀ (number : Nat) name, names[number]? = some name →
      ∃ vector component, chart.get? 0 span = some vector ∧ vector[number]? = some component ∧
        named.get span name = if Scalar.isZero component then 0 else component
  get_outside : ∀ span, ¬ span.Within chart.sequenceLength → ∀ name, named.get span name = 0
  get_undeclared : ∀ span name, name ∉ names → named.get span name = 0
  /-- The spans with a component that is not zero are listed, and no other. -/
  mem_spans : ∀ span, span ∈ named.entries.map Prod.fst ↔
    ∃ vector, chart.get? 0 span = some vector ∧
      ∃ component ∈ vector, Scalar.isZero component = false
  spans_ordered : (named.entries.map Prod.fst).Pairwise Span.ShownBefore
  spans_nodup : (named.entries.map Prod.fst).Nodup
  /-- The components that are not zero are listed, in the order of declaration, and no other. -/
  components : ∀ entry ∈ named.entries, ∃ vector, chart.get? 0 entry.1 = some vector ∧
    vector.length = names.length ∧
      entry.2 = (names.zip vector).filter fun pair => !Scalar.isZero pair.2

namespace Grammar

variable {grammar : Grammar α} {state : GrammarState α}

/-- There is a named entry if and only if there is a component that is not zero. -/
theorem nameEntries_ne_nil_iff {vector : ValueVector α}
    (lengths : vector.length = grammar.nonTerminals.size) :
    grammar.nameEntries vector ≠ [] ↔
      ∃ component ∈ vector, Scalar.isZero component = false := by
  constructor
  · intro nonempty
    obtain ⟨⟨name, component⟩, member⟩ := List.exists_mem_of_ne_nil _ nonempty
    obtain ⟨_, _, here, nonzero⟩ := mem_nameEntries_iff.mp member
    exact ⟨component, List.mem_of_getElem? here, nonzero⟩
  · rintro ⟨component, member, nonzero⟩
    obtain ⟨number, inside, here⟩ := List.getElem_of_mem member
    have named : number < grammar.nonTerminals.names.length := Nat.lt_of_lt_of_eq inside lengths
    exact List.ne_nil_of_mem (mem_nameEntries_iff.mpr ⟨number, List.getElem?_eq_getElem named,
      List.getElem?_eq_some_iff.mpr ⟨inside, here⟩, nonzero⟩)

theorem Settled.shows (settled : grammar.Settled state) :
    (grammar.namedChart state).Shows grammar.nonTerminals.names state.workspace.chart where
  get_declared span within number name declared := by
    obtain ⟨vector, found, lengths⟩ := settled.vectors span within
    have inside : number < vector.length :=
      lengths ▸ (List.getElem?_eq_some_iff.mp declared).1
    have here := List.getElem?_eq_getElem inside
    refine ⟨vector, vector[number], found, here, ?_⟩
    rw [get_namedChart_of_some found, find?_nameEntries declared here]
    cases Scalar.isZero vector[number] <;> rfl
  get_outside span outside name := by
    refine get_namedChart_of_none ?_ name
    by_contra written
    obtain ⟨vector, found⟩ := Option.ne_none_iff_exists'.mp written
    exact outside (InsideChart.within_of_get? found)
  get_undeclared span name undeclared := by
    cases found : state.workspace.chart.get? 0 span with
    | none => exact get_namedChart_of_none found name
    | some vector =>
      have nothing : (grammar.nameEntries vector).find? (fun named => named.1 = name) = none := by
        rw [List.find?_eq_none]
        rintro ⟨other, component⟩ member same
        obtain ⟨number, declared, _⟩ := mem_nameEntries_iff.mp member
        exact undeclared (of_decide_eq_true same ▸ List.mem_of_getElem? declared)
      rw [get_namedChart_of_some found, nothing]
  mem_spans span := by
    rw [List.mem_map]
    constructor
    · rintro ⟨entry, member, rfl⟩
      obtain ⟨vector, found, nonempty, _⟩ :=
        nameSpan_eq_some_iff.mp (mem_namedChart_iff.mp member)
      obtain ⟨_, same, lengths⟩ := settled.vectors _ (InsideChart.within_of_get? found)
      cases found.symm.trans same
      exact ⟨vector, found, (nameEntries_ne_nil_iff lengths).mp nonempty⟩
    · rintro ⟨vector, found, nonzero⟩
      obtain ⟨_, same, lengths⟩ := settled.vectors _ (InsideChart.within_of_get? found)
      cases found.symm.trans same
      exact ⟨(span, grammar.nameEntries vector), mem_namedChart_iff.mpr
        (nameSpan_eq_some_iff.mpr ⟨vector, found, (nameEntries_ne_nil_iff lengths).mpr nonzero,
          rfl⟩), rfl⟩
  spans_ordered := List.pairwise_map.mpr (grammar.pairwise_namedChart state)
  spans_nodup :=
    List.pairwise_map.mpr ((grammar.pairwise_namedChart state).imp Span.ShownBefore.ne)
  components entry member := by
    obtain ⟨vector, found, _, same⟩ := nameSpan_eq_some_iff.mp (mem_namedChart_iff.mp member)
    obtain ⟨_, known, lengths⟩ := settled.vectors _ (InsideChart.within_of_get? found)
    cases found.symm.trans known
    refine ⟨vector, found, lengths, ?_⟩
    rw [← nameEntries_eq lengths]
    exact congrArg Prod.snd same

/-- In every state that a grammar can come to, the named chart shows the chart under the declared
names. There are as many words as the chart has positions, and each line of the written form
quotes the words from the start of its span to its stop. -/
theorem namedChart_shows_reachable [ScalarText α] {nonTerminalNames terminalNames : List String}
    {rules : List (WeightedRule α)} {start : String}
    (compiled : compile nonTerminalNames terminalNames rules start = .ok grammar)
    (reachable : grammar.Reachable state) :
    (grammar.namedChart state).Shows nonTerminalNames state.workspace.chart ∧
    state.words.length = state.workspace.chart.sequenceLength ∧
    (grammar.namedChart state).render =
      String.join ((grammar.namedChart state).entries.map fun entry =>
        entry.1.render ++ " \"" ++ " ".intercalate (wordsIn state.words entry.1) ++ "\":" ++
          String.join (entry.2.map fun named =>
            " " ++ named.1 ++ "=" ++ ScalarText.scientific 3 named.2) ++ "\n") ∧
    ∀ entry ∈ (grammar.namedChart state).entries, ∃ before after,
      state.words = before ++ wordsIn state.words entry.1 ++ after ∧
        before.length = entry.1.start ∧
        (wordsIn state.words entry.1).length = entry.1.stop - entry.1.start := by
  obtain ⟨rfl, _⟩ := of_compile_eq_ok compiled
  have settled := reachable.settled compiled
  have within : ∀ entry ∈ (grammar.namedChart state).entries,
      entry.1.Within state.words.length := by
    intro entry member
    obtain ⟨_, found, _⟩ := nameSpan_eq_some_iff.mp (mem_namedChart_iff.mp member)
    exact settled.words.symm ▸ InsideChart.within_of_get? found
  refine ⟨settled.shows, settled.words, ?_, fun entry member =>
    exists_append_wordsIn (within entry member)⟩
  rw [NamedChart.render]
  refine congrArg String.join (List.map_congr_left fun entry member => ?_)
  rw [NamedChart.renderEntry, covered_eq (within entry member)]
  rfl

/-- Rules for two words in a row. -/
def twofoldRules : List (WeightedRule Float) :=
  [⟨.unary "A" "a", 1.0⟩, ⟨.binary "S" "A" "A", 3.0⟩]

/-- The grammar of these rules. -/
def twofold : Grammar Float :=
  (compile ["S", "A"] ["a"] twofoldRules "S").toOption.get (by decide +kernel)

theorem compile_twofold : compile ["S", "A"] ["a"] twofoldRules "S" = .ok twofold := by
  have accepted : (compile ["S", "A"] ["a"] twofoldRules "S").toOption = some twofold :=
    (Option.some_get _).symm
  cases outcome : compile ["S", "A"] ["a"] twofoldRules "S" with
  | error cause =>
    rw [outcome] at accepted
    cases accepted
  | ok grammar =>
    rw [outcome] at accepted
    exact congrArg _ (Option.some.inj accepted)

/-- Its state after a sentence with a word that it does not know, and one with known words. -/
def spoken : GrammarState Float :=
  (runOn (twofold.inside ["a", "a"]) (runOn (twofold.inside ["b"]) .initial).2).2

/-- The last sentence is shown, and nothing of the one before it. -/
theorem spoken_shows_last_sentence :
    compile ["S", "A"] ["a"] twofoldRules "S" = .ok twofold ∧
      twofold.Reachable spoken ∧
      (twofold.namedChart spoken).Shows ["S", "A"] spoken.workspace.chart ∧
      (twofold.namedChart spoken).render =
        "(0, 2) \"a a\": S=4.688e-2\n(0, 1) \"a\": A=2.500e-1\n(1, 2) \"a\": A=2.500e-1\n" := by
  have reachable : twofold.Reachable spoken :=
    .inside _ (.inside _ .initial (by decide +kernel)) (by decide +kernel)
  obtain ⟨view, _, lines, _⟩ := namedChart_shows_reachable compile_twofold reachable
  refine ⟨compile_twofold, reachable, view, lines.trans ?_⟩
  decide +kernel

end Grammar

end RecursiveBayes
