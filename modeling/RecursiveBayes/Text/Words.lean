/-
This file cuts a text into words, in two ways. `words` says what the words of a
text are: the non-empty pieces between its blanks. `nextWord?` reads them one at
a time and returns the text that it has not read yet, which is what a reader
with one token of lookahead needs. Each call of `nextWord?` leaves a strictly
shorter text, so a reader that keeps calling it comes to an end, and the words it
reads on the way are the words of the text.
-/

import RecursiveBayes.Text.Blank

namespace RecursiveBayes

/-! ### The words of a text -/

/-- The pieces of a text between its blanks, in order. A text with `k` blanks has `k + 1`
pieces, of which any may be empty. -/
def piecesBetweenBlanks : List Char → List (List Char)
  | [] => [[]]
  | character :: rest =>
    if isBlank character then
      [] :: piecesBetweenBlanks rest
    else
      match piecesBetweenBlanks rest with
      | [] => [[character]]
      | piece :: pieces => (character :: piece) :: pieces

/-- The words of a text: its non-empty pieces between blanks. -/
def words (text : List Char) : List (List Char) :=
  (piecesBetweenBlanks text).filter fun piece => !piece.isEmpty

/-! ### Reading one word at a time -/

/-- The first word of a text and the text after it, or nothing if only blanks are left. -/
def nextWord? (text : List Char) : Option (List Char × List Char) :=
  match text.dropWhile isBlank with
  | [] => none
  | head :: tail =>
    some (head :: tail.takeWhile fun character => !isBlank character,
      tail.dropWhile fun character => !isBlank character)

theorem length_dropWhile_le (text : List Char) (keep : Char → Bool) :
    (text.dropWhile keep).length ≤ text.length :=
  (List.dropWhile_suffix keep).length_le

/-- Reading a word leaves a strictly shorter text. -/
theorem length_lt_of_nextWord? {text word rest : List Char}
    (read : nextWord? text = some (word, rest)) : rest.length < text.length := by
  unfold nextWord? at read
  have notLonger := length_dropWhile_le text isBlank
  split at read
  · simp at read
  · rename_i head tail unread
    simp only [Option.some.injEq, Prod.mk.injEq] at read
    have tailNotLonger := length_dropWhile_le tail fun character => !isBlank character
    rw [unread, List.length_cons] at notLonger
    rw [← read.2]
    omega

/-! ### Both ways agree -/

/-- The first piece of a text is its run of characters that are not blank. -/
theorem piecesBetweenBlanks_eq (text : List Char) :
    piecesBetweenBlanks text =
      (text.takeWhile fun character => !isBlank character) ::
        match text.dropWhile fun character => !isBlank character with
        | [] => []
        | _ :: rest => piecesBetweenBlanks rest := by
  induction text with
  | nil => rfl
  | cons character rest inductionHypothesis =>
    rw [piecesBetweenBlanks]
    cases blank : isBlank character with
    | true => simp [blank]
    | false =>
      rw [inductionHypothesis]
      simp [blank]

/-- A blank at the start of a text is in no word. -/
theorem words_cons_of_isBlank {character : Char} (rest : List Char)
    (blank : isBlank character = true) : words (character :: rest) = words rest := by
  simp [words, piecesBetweenBlanks, blank]

theorem words_dropWhile_isBlank (text : List Char) :
    words (text.dropWhile isBlank) = words text := by
  induction text with
  | nil => rfl
  | cons character rest inductionHypothesis =>
    cases blank : isBlank character with
    | true =>
      rw [List.dropWhile_cons_of_pos blank, inductionHypothesis, words_cons_of_isBlank rest blank]
    | false => rw [List.dropWhile_cons_of_neg (by simp [blank])]

/-- The words of the text after a run of characters that are not blank. -/
theorem words_dropWhile_not_isBlank (text : List Char) :
    words (text.dropWhile fun character => !isBlank character) =
      (match text.dropWhile fun character => !isBlank character with
        | [] => []
        | _ :: rest => piecesBetweenBlanks rest).filter fun piece => !piece.isEmpty := by
  cases after : text.dropWhile fun character => !isBlank character with
  | nil => rfl
  | cons head tail =>
    have stopped := List.head?_dropWhile_not (fun character => !isBlank character) text
    rw [after] at stopped
    simp at stopped
    rw [words_cons_of_isBlank tail stopped]
    rfl

/-- Reading words one at a time gives the words of the text. -/
theorem words_eq_nextWord? (text : List Char) :
    words text =
      match nextWord? text with
      | none => []
      | some (word, rest) => word :: words rest := by
  rw [← words_dropWhile_isBlank]
  unfold nextWord?
  cases start : text.dropWhile isBlank with
  | nil => rfl
  | cons head tail =>
    have stopped := List.head?_dropWhile_not isBlank text
    rw [start] at stopped
    simp at stopped
    show words (head :: tail) =
      (head :: tail.takeWhile fun character => !isBlank character) ::
        words (tail.dropWhile fun character => !isBlank character)
    rw [words_dropWhile_not_isBlank, words, piecesBetweenBlanks_eq]
    simp [stopped]

end RecursiveBayes
