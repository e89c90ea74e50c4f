import Chronogram.Diagram.Draft
import Chronogram.Markup.Entity
import Chronogram.Statement.Printer
import Mathlib.Logic.Function.Basic

/-!
Escaping loses nothing.

Decoding references undoes escaping character by character, so texts that differ have markup that
differs.
-/

namespace Chronogram

namespace Markup

/-- What stands for a character is read as that character, and nothing behind it is used up. -/
theorem decodeAfter_escapeChar (c : Char) (rest : List Char) :
    decodeAfter 0 (escapeChar c ++ rest) = c :: decodeAfter 0 rest := by
  unfold escapeChar
  split
  case h_6 notAmpersand _ _ _ _ =>
    have plain : c ≠ '&' := notAmpersand
    simp [decodeAfter, plain]
  all_goals simp [decodeAfter, reference?, escapeReference?, escapeReferences]

@[simp]
theorem decode_escape (text : List Char) : decode (escape text) = text := by
  unfold decode
  induction text with
  | nil => rfl
  | cons c rest inductionHypothesis =>
      rw [escape, List.flatMap_cons, decodeAfter_escapeChar]
      exact congrArg (c :: ·) inductionHypothesis

theorem escape_injective : Function.Injective escape :=
  Function.LeftInverse.injective decode_escape

end Markup

theorem plainMarkup_injective : Function.Injective plainMarkup := by
  intro text text' same
  refine String.toList_injective (Markup.escape_injective ?_)
  exact String.ofList_injective same

@[simp]
theorem fieldMarkup_rawField (text : String) : fieldMarkup (rawField text) = plainMarkup text := by
  simp [fieldMarkup, rawField, plainMarkup]

end Chronogram
