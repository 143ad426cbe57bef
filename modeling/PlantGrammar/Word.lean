import PlantGrammar.Symbol
import PlantGrammar.Text.Blank

/-!
# Words

A plant is described by a word of symbols. Ordinary text is read with its blanks dropped
(`Word.ofText`), a text whose every character counts is read by `Word.ofChars`, and `Word.text`
writes a word back.

* `Word.toList_text_ofText`: writing what was read gives the text without its blanks.
* `Word.toList_text_ofChars`: reading every character loses nothing.
* `Word.ofChars_map_toChar`: a word of canonical symbols is read back from its characters.
-/

namespace PlantGrammar

/-- A sequence of symbols. -/
abbrev Word := List Symbol

namespace Word

/-- One symbol for each character, blanks included. -/
def ofChars (cs : List Char) : Word := cs.map Symbol.ofChar

/-- The word written by a text; blanks only lay the text out and are skipped. -/
def ofText (s : String) : Word := ofChars (s.toList.filter fun c => !Text.isBlank c)

/-- The text of a word, one character for each symbol. -/
def text (w : Word) : String := String.ofList (w.map Symbol.toChar)

@[simp]
theorem toList_text (w : Word) : w.text.toList = w.map Symbol.toChar := by
  simp [text]

theorem toList_text_ofChars (cs : List Char) : (ofChars cs).text.toList = cs := by
  simp [ofChars, Function.comp_def]

/-- Symbols that are read back from their characters make the word that is read back. -/
theorem ofChars_map_toChar {w : Word} (canonical : ∀ s ∈ w, s.Canonical) :
    ofChars (w.map Symbol.toChar) = w := by
  rw [ofChars, List.map_map]
  exact (List.map_congr_left canonical).trans (List.map_id w)

theorem toList_text_ofText (s : String) :
    (ofText s).text.toList = s.toList.filter fun c => !Text.isBlank c :=
  toList_text_ofChars _

end Word

end PlantGrammar
