/-
This file says what the reader of rules finds in the words of a text. The reader
has one token of lookahead and never holds the list of words; here the same
decision is made on the whole list. A rule is read exactly if its words are the
left-hand side, the arrow and the one or two symbols of the right-hand side, and
none of the symbols is the arrow.

Every list of words has exactly one outcome, a production or a fault, and the outcome
depends on the words only. A second arrow is reported before the symbols are counted.

The induction is on the number of words that are left: each step of the reader
consumes one of them.
-/

import RecursiveBayes.Rule.Reader

namespace RecursiveBayes

/-! ### The tokens of a text -/

namespace RuleReader

theorem ofText_of_words_nil {text : List Char} (exhausted : words text = []) :
    ofText text = ⟨.finish, []⟩ := by
  rw [words_eq_nextWord?] at exhausted
  cases read : nextWord? text with
  | none => simp only [ofText, read]
  | some pair =>
    rw [read] at exhausted
    cases exhausted

/-- The reader at the start of a text holds the first word and will go on with the others. -/
theorem ofText_of_words_cons {text word : List Char} {others : List (List Char)}
    (found : words text = word :: others) :
    ∃ rest, ofText text = ⟨RuleToken.ofWord word, rest⟩ ∧ words rest = others := by
  rw [words_eq_nextWord?] at found
  cases read : nextWord? text with
  | none =>
    rw [read] at found
    cases found
  | some pair =>
    rw [read] at found
    obtain ⟨rfl, rfl⟩ := List.cons.inj found
    exact ⟨pair.2, by simp only [ofText, read], rfl⟩

/-- The words of a text are collected up to its end, unless one of them is the arrow. -/
theorem symbolsToEnd_ofText (lhs : String) (collected : List String) (text : List Char) :
    (ofText text).symbolsToEnd lhs collected =
      if Production.arrow.toList ∈ words text then .error (.unexpectedArrow lhs)
      else .ok (collected ++ (words text).map String.ofList) := by
  induction left : words text generalizing text collected with
  | nil =>
    rw [ofText_of_words_nil left, symbolsToEnd]
    simp
  | cons word others inductionHypothesis =>
    obtain ⟨rest, reader, after⟩ := ofText_of_words_cons left
    have next (more : List String) := inductionHypothesis more rest after
    by_cases isArrow : word = Production.arrow.toList
    · have token : RuleToken.ofWord word = .arrow := if_pos isArrow
      rw [reader, token, symbolsToEnd, if_pos (isArrow ▸ List.mem_cons_self)]
    · have token : RuleToken.ofWord word = .symbol (String.ofList word) := if_neg isArrow
      rw [reader, token, symbolsToEnd]
      simp only [advance, next, List.mem_cons, Ne.symm isArrow, false_or, List.map_cons,
        List.append_assoc, List.singleton_append]

end RuleReader

/-! ### Rules as lists of words -/

namespace Production

/-- The production with the given left-hand side that the words behind it stand for. A second
arrow is a fault however many symbols there are. -/
def ofWordsAfter (lhs : String) : List (List Char) → Except RuleFault Production
  | [] => .error (.missingArrow lhs)
  | second :: symbols =>
    if second = arrow.toList then
      if arrow.toList ∈ symbols then
        .error (.unexpectedArrow lhs)
      else
        ofSides lhs (symbols.map String.ofList)
    else
      .error (.missingArrow lhs)

/-- The production that a list of words stands for. -/
def ofWords : List (List Char) → Except RuleFault Production
  | [] => .error .empty
  | first :: others =>
    if first = arrow.toList then .error .missingLeft else ofWordsAfter (String.ofList first) others

/-- Reading a text token by token reads the list of its words. -/
theorem parse_eq_ofWords (text : String) : parse text = ofWords (words text.toList) := by
  rw [parse]
  cases all : words text.toList with
  | nil =>
    rw [RuleReader.ofText_of_words_nil all]
    rfl
  | cons first others =>
    obtain ⟨afterFirst, start, left⟩ := RuleReader.ofText_of_words_cons all
    rw [start, ofWords]
    by_cases firstArrow : first = arrow.toList
    · have token : RuleToken.ofWord first = .arrow := if_pos firstArrow
      simp only [token, if_pos firstArrow]
    · have token : RuleToken.ofWord first = .symbol (String.ofList first) := if_neg firstArrow
      simp only [token, if_neg firstArrow, RuleReader.advance]
      cases others with
      | nil =>
        rw [RuleReader.ofText_of_words_nil left]
        rfl
      | cons second symbols =>
        obtain ⟨afterSecond, next, rest⟩ := RuleReader.ofText_of_words_cons left
        rw [next, ofWordsAfter]
        by_cases secondArrow : second = arrow.toList
        · have token : RuleToken.ofWord second = .arrow := if_pos secondArrow
          simp only [token, if_pos secondArrow, RuleReader.symbolsToEnd_ofText, rest,
            List.nil_append]
          split <;> rfl
        · have token : RuleToken.ofWord second = .symbol (String.ofList second) :=
            if_neg secondArrow
          simp only [token, if_neg secondArrow]

/-! ### The outcome of a list of words -/

/-- What a list of words reads as: a production, or the reason why it is none. -/
inductive ReadsAs : List String → Except RuleFault Production → Prop
  | nothing : ReadsAs [] (.error .empty)
  | arrowFirst (others : List String) : ReadsAs (arrow :: others) (.error .missingLeft)
  /-- The word after the left-hand side is not the arrow, or there is none. -/
  | noArrow {lhs : String} {others : List String} (left : lhs ≠ arrow)
      (absent : others.head? ≠ some arrow) : ReadsAs (lhs :: others) (.error (.missingArrow lhs))
  /-- A second arrow stands anywhere behind the first, with any number of other words. -/
  | secondArrow {lhs : String} {right : List String} (left : lhs ≠ arrow)
      (again : arrow ∈ right) :
      ReadsAs (lhs :: arrow :: right) (.error (.unexpectedArrow lhs))
  | noRight {lhs : String} (left : lhs ≠ arrow) :
      ReadsAs [lhs, arrow] (.error (.missingRight lhs))
  | unary {lhs symbol : String} (left : lhs ≠ arrow) (once : arrow ∉ [symbol]) :
      ReadsAs [lhs, arrow, symbol] (.ok (.unary lhs symbol))
  | binary {lhs first second : String} (left : lhs ≠ arrow) (once : arrow ∉ [first, second]) :
      ReadsAs [lhs, arrow, first, second] (.ok (.binary lhs first second))
  | tooMany {lhs : String} {right : List String} (left : lhs ≠ arrow) (once : arrow ∉ right)
      (many : 2 < right.length) :
      ReadsAs (lhs :: arrow :: right) (.error (.tooManySymbols lhs right.length))

theorem readsAs_ofSides {lhs : String} {right : List String} (left : lhs ≠ arrow)
    (once : arrow ∉ right) : ReadsAs (lhs :: arrow :: right) (ofSides lhs right) := by
  match right with
  | [] => exact .noRight left
  | [symbol] => exact .unary left once
  | [first, second] => exact .binary left once
  | first :: second :: third :: others => exact .tooMany left once (by simp)

theorem mem_map_ofList_iff {name : String} {words : List (List Char)} :
    name ∈ words.map String.ofList ↔ name.toList ∈ words := by
  rw [List.mem_map]
  constructor
  · rintro ⟨word, member, rfl⟩
    rwa [String.toList_ofList]
  · exact fun member => ⟨name.toList, member, String.ofList_toList⟩

/-- The decision on the list of words is an outcome of these words. -/
theorem readsAs_ofWords (words : List (List Char)) :
    ReadsAs (words.map String.ofList) (ofWords words) := by
  match words with
  | [] => exact .nothing
  | first :: others =>
    rw [List.map_cons, ofWords]
    split
    · rename_i firstArrow
      rw [firstArrow, String.ofList_toList]
      exact .arrowFirst _
    · rename_i firstSymbol
      have left : String.ofList first ≠ arrow := fun same =>
        firstSymbol (by rw [← same, String.toList_ofList])
      match others with
      | [] => exact .noArrow left (by simp)
      | second :: symbols =>
        rw [List.map_cons, ofWordsAfter]
        split
        · rename_i secondArrow
          rw [secondArrow, String.ofList_toList]
          split
          · rename_i again
            exact .secondArrow left (mem_map_ofList_iff.mpr again)
          · rename_i once
            exact readsAs_ofSides left (mt mem_map_ofList_iff.mp once)
        · rename_i secondSymbol
          refine .noArrow left fun same => secondSymbol ?_
          rw [← Option.some.inj same, String.toList_ofList]

/-- A list of words has no two outcomes. -/
theorem ReadsAs.unique {words : List String} {outcome other : Except RuleFault Production}
    (reads : ReadsAs words outcome) (readsOther : ReadsAs words other) : outcome = other := by
  cases reads <;> cases readsOther <;> simp_all

/-- The reader decides every text by its words: it returns the one outcome that they have. -/
theorem parse_eq_iff_readsAs (text : String) (outcome : Except RuleFault Production) :
    parse text = outcome ↔ ReadsAs ((words text.toList).map String.ofList) outcome := by
  have decided := readsAs_ofWords (words text.toList)
  rw [parse_eq_ofWords]
  constructor
  · rintro rfl
    exact decided
  · exact decided.unique

/-- A late arrow is reported however many symbols there are. -/
example : parse "S --> NP VP PP --> x" = .error (.unexpectedArrow "S") := by
  rw [parse_eq_ofWords]
  rfl

/-! ### Rules that are read -/

/-- The symbols of a production, the left-hand side first. -/
def symbols (production : Production) : List String :=
  production.lhs :: production.rhs

/-- The words of the written form of a production: its symbols, and the arrow between the two
sides. -/
def texts (production : Production) : List String :=
  production.lhs :: arrow :: production.rhs

theorem ofSides_eq_ok_iff {lhs : String} {right : List String} {production : Production} :
    ofSides lhs right = .ok production ↔ production.lhs = lhs ∧ production.rhs = right := by
  match right with
  | [] => cases production <;> simp [ofSides, Production.rhs]
  | [symbol] => cases production <;> simp [ofSides, Production.lhs, Production.rhs, eq_comm]
  | [left, right] => cases production <;> simp [ofSides, Production.lhs, Production.rhs, eq_comm]
  | first :: second :: third :: others => cases production <;> simp [ofSides, Production.rhs]

/-- Some words stand for a production exactly if they are the words of its written form and none of
its symbols is the arrow. -/
theorem ofWords_eq_ok_iff {words : List (List Char)} {production : Production} :
    ofWords words = .ok production ↔ words = production.texts.map String.toList ∧
      ∀ symbol ∈ production.symbols, symbol ≠ arrow := by
  constructor
  · intro accepted
    match words with
    | [] => cases accepted
    | first :: others =>
      rw [ofWords] at accepted
      split at accepted
      · cases accepted
      · rename_i firstSymbol
        match others with
        | [] => cases accepted
        | second :: symbols =>
          rw [ofWordsAfter] at accepted
          split at accepted
          · rename_i secondArrow
            split at accepted
            · cases accepted
            · rename_i noArrow
              obtain ⟨lhs, rhs⟩ := ofSides_eq_ok_iff.mp accepted
              refine ⟨?_, fun symbol member isArrow => ?_⟩
              · simp [texts, lhs, rhs, secondArrow, Function.comp_def, String.toList_ofList]
              · rw [Production.symbols, lhs, rhs, isArrow] at member
                rcases List.mem_cons.mp member with left | right
                · exact firstSymbol (by rw [left, String.toList_ofList])
                · obtain ⟨word, inside, same⟩ := List.mem_map.mp right
                  exact noArrow (by rwa [← same, String.toList_ofList])
          · cases accepted
  · rintro ⟨rfl, noArrow⟩
    have lhs : production.lhs.toList ≠ arrow.toList := fun same =>
      noArrow _ List.mem_cons_self (String.toList_inj.mp same)
    have rhs : arrow.toList ∉ production.rhs.map String.toList := by
      intro member
      obtain ⟨symbol, inside, same⟩ := List.mem_map.mp member
      exact noArrow symbol (List.mem_cons_of_mem _ inside) (String.toList_inj.mp same)
    rw [texts, List.map_cons, List.map_cons, ofWords, if_neg lhs, ofWordsAfter, if_pos rfl,
      if_neg rhs, ofSides_eq_ok_iff]
    simp [Function.comp_def, String.ofList_toList]

end Production

end RecursiveBayes
