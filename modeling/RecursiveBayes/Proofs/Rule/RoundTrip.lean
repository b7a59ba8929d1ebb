/-
This file proves that writing and reading a production undo each other exactly
when its symbols can be told apart in the written form: each of them has a
character, none of them has a blank and none is the arrow. With any other symbol
the written form has other words than were put into it, or reads as something
else.

Conversely, every production that is read from a text is of this kind, and its
written form is the text with its words joined by single spaces.
-/

import RecursiveBayes.Proofs.Rule.Reading
import RecursiveBayes.Proofs.Text.Joining

namespace RecursiveBayes

namespace Production

/-- A name that can be read as a symbol of a rule: it is not empty, no character of it is blank, and
it is not the arrow. -/
def IsSymbol (name : String) : Prop :=
  name ≠ "" ∧ (∀ character ∈ name.toList, isBlank character = false) ∧ name ≠ arrow

theorem isSymbol_iff {name : String} : IsSymbol name ↔ Solid name.toList ∧ name ≠ arrow := by
  simp only [IsSymbol, Solid, and_assoc, ne_eq, String.toList_eq_nil_iff]

/-- The written form of a production is its words, joined by single spaces. -/
theorem render_eq (production : Production) :
    production.render = " ".intercalate production.texts := by
  cases production <;>
    simp [render, texts, Production.lhs, Production.rhs, String.append_assoc]

/-- The words of the written form are the intended ones exactly if all symbols are solid. -/
theorem words_render_iff {production : Production} :
    words production.render.toList = production.texts.map String.toList ↔
      ∀ symbol ∈ production.symbols, Solid symbol.toList := by
  have arrowSolid : Solid arrow.toList := by decide
  have space : " ".toList = [' '] := rfl
  rw [render_eq, String.toList_intercalate, space, words_intercalate_eq_iff]
  simp [texts, symbols, arrowSolid]

/-- A text is read as a production exactly if its words are those of the written form and none of
the symbols is the arrow. -/
theorem parse_eq_ok_iff {text : String} {production : Production} :
    parse text = .ok production ↔ words text.toList = production.texts.map String.toList ∧
      ∀ symbol ∈ production.symbols, symbol ≠ arrow := by
  rw [parse_eq_ofWords, ofWords_eq_ok_iff]

theorem parse_render_iff {production : Production} :
    parse production.render = .ok production ↔ ∀ symbol ∈ production.symbols, IsSymbol symbol := by
  simp only [parse_eq_ok_iff, words_render_iff, isSymbol_iff, forall_and]

/-- Every symbol that is read can be read. -/
theorem isSymbol_of_parse {text : String} {production : Production}
    (read : parse text = .ok production) : ∀ symbol ∈ production.symbols, IsSymbol symbol := by
  obtain ⟨found, noArrow⟩ := parse_eq_ok_iff.mp read
  intro symbol member
  have written : symbol ∈ production.texts := by
    rcases List.mem_cons.mp member with rfl | right
    · exact List.mem_cons_self
    · exact List.mem_cons_of_mem _ (List.mem_cons_of_mem _ right)
  have word : symbol.toList ∈ words text.toList := found ▸ List.mem_map_of_mem written
  exact isSymbol_iff.mpr ⟨solid_of_mem_words word, noArrow symbol member⟩

/-- A production that is read is written as the words of the text, joined by single spaces. -/
theorem render_of_parse {text : String} {production : Production}
    (read : parse text = .ok production) :
    production.render = " ".intercalate ((words text.toList).map String.ofList) := by
  obtain ⟨found, _⟩ := parse_eq_ok_iff.mp read
  rw [render_eq, found, List.map_map]
  simp [Function.comp_def, String.ofList_toList]

/-- Reading the written form of a production gives the production back exactly if its symbols can be
read. A production that was read from any text is such a production; its written form has the
words of the text, joined by single spaces, and reads as the same production again. -/
theorem reading_inverts_writing :
    (∀ production : Production, parse production.render = .ok production ↔
      ∀ symbol ∈ production.symbols, IsSymbol symbol) ∧
    (∀ (text : String) (production : Production), parse text = .ok production →
      (∀ symbol ∈ production.symbols, IsSymbol symbol) ∧
      production.render = " ".intercalate ((words text.toList).map String.ofList) ∧
      parse production.render = .ok production) := by
  refine ⟨fun _ => parse_render_iff, fun text production read => ?_⟩
  have readable := isSymbol_of_parse read
  exact ⟨readable, render_of_parse read, parse_render_iff.mpr readable⟩

/-- A rule with tabs and repeated spaces is written with single spaces and reads the same; a symbol
with a space in it is not read back. -/
theorem spaced_rule_reads_back :
    (parse " S\t-->  NP VP " = .ok (.binary "S" "NP" "VP") ∧
      (binary "S" "NP" "VP").render = "S --> NP VP" ∧
      parse "S --> NP VP" = .ok (.binary "S" "NP" "VP")) ∧
    parse (unary "S" "NP VP").render ≠ .ok (.unary "S" "NP VP") := by
  have read : parse " S\t-->  NP VP " = .ok (.binary "S" "NP" "VP") :=
    parse_eq_ok_iff.mpr (by decide)
  obtain ⟨written, again⟩ := (reading_inverts_writing.2 _ _ read).2
  refine ⟨⟨read, rfl, again⟩, fun back => ?_⟩
  have solid := (reading_inverts_writing.1 _).mp back "NP VP" (by decide)
  exact Bool.noConfusion (solid.2.1 ' ' (by decide))

end Production

end RecursiveBayes
