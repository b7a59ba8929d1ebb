/-
This file compares cutting a text into words with joining words into a text. The
words of a text are solid: they have a character and no blank. Solid words that
are joined by single spaces are the words of the text that comes out. So the words
of a joined text are the ones that were joined exactly if all of these are solid.
-/

import RecursiveBayes.Text.Words

namespace RecursiveBayes

/-- A word is solid when it has a character and no blank. -/
def Solid (word : List Char) : Prop :=
  word ≠ [] ∧ ∀ character ∈ word, isBlank character = false

instance (word : List Char) : Decidable (Solid word) :=
  decidable_of_iff ((!word.isEmpty && word.all fun character => !isBlank character) = true)
    (by simp [Solid])

/-! ### Words are solid -/

theorem isBlank_of_mem_piecesBetweenBlanks {text piece : List Char}
    (member : piece ∈ piecesBetweenBlanks text) {character : Char} (inside : character ∈ piece) :
    isBlank character = false := by
  induction text generalizing piece with
  | nil =>
    rw [piecesBetweenBlanks, List.mem_singleton] at member
    subst member
    cases inside
  | cons head rest inductionHypothesis =>
    rw [piecesBetweenBlanks] at member
    split at member
    · rcases List.mem_cons.mp member with rfl | later
      · cases inside
      · exact inductionHypothesis later inside
    · rename_i solid
      rw [Bool.not_eq_true] at solid
      -- The first character goes to the first piece of the rest, if there is one.
      cases pieces : piecesBetweenBlanks rest with
      | nil =>
        rw [pieces, List.mem_singleton] at member
        subst member
        rwa [List.mem_singleton.mp inside]
      | cons first others =>
        rw [pieces] at member inductionHypothesis
        rcases List.mem_cons.mp member with rfl | later
        · rcases List.mem_cons.mp inside with rfl | tail
          · exact solid
          · exact inductionHypothesis List.mem_cons_self tail
        · exact inductionHypothesis (List.mem_cons_of_mem _ later) inside

/-- The words of a text are solid. -/
theorem solid_of_mem_words {text word : List Char} (member : word ∈ words text) : Solid word := by
  obtain ⟨piece, nonempty⟩ := List.mem_filter.mp member
  exact ⟨by simpa using nonempty, fun _ => isBlank_of_mem_piecesBetweenBlanks piece⟩

/-! ### Solid words are found again -/

/-- A solid word at the start of a text is a piece of it up to the next blank. -/
theorem piecesBetweenBlanks_append {word : List Char} (solid : Solid word) (rest : List Char) :
    piecesBetweenBlanks (word ++ rest) =
      (word ++ rest.takeWhile fun character => !isBlank character) ::
        match rest.dropWhile fun character => !isBlank character with
        | [] => []
        | _ :: others => piecesBetweenBlanks others := by
  have letters : ∀ character ∈ word, (!isBlank character) = true :=
    fun character inside => by rw [solid.2 character inside, Bool.not_false]
  have pieces := piecesBetweenBlanks_eq (word ++ rest)
  rw [List.takeWhile_append_of_pos letters, List.dropWhile_append_of_pos letters] at pieces
  exact pieces

/-- A solid word is the only word of the text that it is. -/
theorem words_eq_singleton {word : List Char} (solid : Solid word) : words word = [word] := by
  have pieces := piecesBetweenBlanks_append solid []
  rw [List.append_nil] at pieces
  rw [words, pieces]
  simp [solid.1]

/-- A solid word before a blank is the first word of the text. -/
theorem words_append_cons {word : List Char} (solid : Solid word) {blank : Char}
    (stops : isBlank blank = true) (rest : List Char) :
    words (word ++ blank :: rest) = word :: words rest := by
  rw [words, piecesBetweenBlanks_append solid]
  simp [stops, solid.1, words]

/-- Words that are joined by single spaces are the words of the joined text exactly if they are
solid. -/
theorem words_intercalate_eq_iff {parts : List (List Char)} :
    words ([' '].intercalate parts) = parts ↔ ∀ word ∈ parts, Solid word := by
  constructor
  · intro same word member
    rw [← same] at member
    exact solid_of_mem_words member
  · intro solid
    induction parts with
    | nil => rfl
    | cons first others inductionHypothesis =>
      have firstSolid := solid first List.mem_cons_self
      cases others with
      | nil => rw [List.intercalate_singleton, words_eq_singleton firstSolid]
      | cons second others =>
        rw [List.intercalate_cons_cons, List.append_assoc, List.singleton_append,
          words_append_cons firstSolid (by decide),
          inductionHypothesis fun word member => solid word (List.mem_cons_of_mem _ member)]

end RecursiveBayes
