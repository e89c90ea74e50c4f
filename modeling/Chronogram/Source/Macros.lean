import Chronogram.Table
import Chronogram.Text.Blank

/-!
Text macros.

A macro gives a name to a text. On a line, every maximal run of characters that are neither blank
nor a colon is a word; each word that names a macro is replaced by its text, all at once, and the
replacement is not looked at again.
-/

namespace Chronogram.Source

open Text

/-- The texts that macro names stand for. -/
abbrev Macros := Table String

/-- Whether a character can stand in a word. -/
def isNameChar (c : Char) : Bool :=
  !isBlank c && c ≠ ':'

/-- What a word stands for: the text of the macro it names, or itself. -/
def Macros.replace (macros : Macros) (word : List Char) : List Char :=
  match macros.get? (String.ofList word) with
  | some text => text.toList
  | none => word

/-- The replacement of a word whose characters have been collected in reverse; no word, no text. -/
def Macros.replaceReversed (macros : Macros) (seen : List Char) : List Char :=
  if seen.isEmpty then [] else macros.replace seen.reverse

/-- Replace the words of a line, the first of which has begun with the characters in the
accumulator. -/
def Macros.expandFrom (macros : Macros) (seen : List Char) : List Char → List Char
  | [] => macros.replaceReversed seen
  | c :: rest =>
      if isNameChar c then macros.expandFrom (c :: seen) rest
      else macros.replaceReversed seen ++ c :: macros.expandFrom [] rest

/-- Replace every word of a line that names a macro. Without macros no word is looked at. -/
def Macros.expand (macros : Macros) (line : List Char) : List Char :=
  if macros.entries.isEmpty then line else macros.expandFrom [] line

/-- Where there are no macros every word stands for itself. -/
theorem Macros.expandFrom_of_isEmpty {macros : Macros} (without : macros.entries.isEmpty = true)
    (seen line : List Char) : macros.expandFrom seen line = seen.reverse ++ line := by
  have nothing : ∀ name, macros.get? name = none := by
    intro name
    rw [Table.get?, List.isEmpty_iff.mp without, List.lookup_nil]
  have kept : ∀ seen, macros.replaceReversed seen = seen.reverse := by
    intro seen
    cases seen <;> simp [replaceReversed, replace, nothing]
  induction line generalizing seen with
  | nil => simp [expandFrom, kept]
  | cons c rest inductionHypothesis =>
      unfold expandFrom
      split
      · simp [inductionHypothesis]
      · simp [inductionHypothesis, kept]

/-- Looking at the words all the same would change nothing. -/
theorem Macros.expand_eq_expandFrom (macros : Macros) (line : List Char) :
    macros.expand line = macros.expandFrom [] line := by
  unfold expand
  split
  next without => rw [expandFrom_of_isEmpty without, List.reverse_nil, List.nil_append]
  next => rfl

structure Definition where
  name : String
  text : String
  deriving Repr, DecidableEq

def definitionKeyword : List Char := "macro".toList

/-- Read a trimmed line as a definition: the keyword, blanks, a name, and, if the line goes on,
blanks and the text. -/
def Definition.read? (line : List Char) : Option Definition :=
  if definitionKeyword.isPrefixOf line then
    let afterKeyword := line.drop definitionKeyword.length
    let spec := trimStart afterKeyword
    let name := spec.takeWhile isNameChar
    let afterName := spec.dropWhile isNameChar
    let startsBlank := afterKeyword.head?.any isBlank
    let ends := afterName.head?.all isBlank
    if startsBlank && !name.isEmpty && ends then
      some ⟨String.ofList name, String.ofList (trim afterName)⟩
    else none
  else none

end Chronogram.Source
