import Chronogram.Measure
import Chronogram.Proofs.Diagram.Naming
import Chronogram.Proofs.Markup.Decoding
import Chronogram.Proofs.Text.Lines
import Mathlib.Order.Bounds.Defs

/-!
Escaped text as it is displayed.

Decoding undoes escaping, so escaped text is displayed as the text that was escaped, and takes the
room of its lines and never that of the references in its markup.
-/

namespace Chronogram

open Source Text

/-- Leaving out the decoder where no ampersand stands changes nothing. -/
theorem displayText_eq_decode (markup : List Char) : displayText markup = Markup.decode markup := by
  unfold displayText
  split
  next => rfl
  next plain => exact (Markup.decode_of_not_mem (by simpa using plain)).symm

@[simp]
theorem displayText_plainMarkup (text : String) :
    displayText (plainMarkup text).toList = text.toList := by
  rw [displayText_eq_decode, plainMarkup, String.toList_ofList, Markup.decode_escape]

namespace FontMetrics

/-- The extent of a number of lines in letters of a size, the widest of which takes a number of
columns. -/
def extentOf (metrics : FontMetrics) (fontSize : Float) (isBold : Bool) (lineCount widest : Nat) :
    Extent :=
  let size := floatMax fontSize 1
  let width := Float.ofNat widest * size * orStandard metrics.charWidth 0.6
  { width := if isBold then width * orStandard metrics.boldWidth 1.1 else width
    height := Float.ofNat lineCount * size * orStandard metrics.lineHeight 1.2
    lineCount }

theorem measureBy_eq_extentOf (metrics : FontMetrics) (count : List Char → Nat) (fontSize : Float)
    (isBold : Bool) (markup : String) :
    metrics.measureBy count fontSize isBold markup =
      metrics.extentOf fontSize isBold (feedParts (displayText markup.toList)).length
        (widestLine count (displayText markup.toList)) :=
  rfl

theorem isGreatest_widestLine (count : List Char → Nat) (text : List Char) :
    IsGreatest {n | ∃ line ∈ text.splitOn '\n', count line = n} (widestLine count text) := by
  have counts : widestLine count text = ((text.splitOn '\n').map count).max?.getD 0 := by
    rw [widestLine, feedParts_eq_splitOn, List.foldl_max, Nat.zero_max]
  have some_greatest : ∃ greatest, ((text.splitOn '\n').map count).max? = some greatest := by
    apply Option.ne_none_iff_exists'.mp
    intro missing
    simp [List.max?_eq_none_iff, List.splitOn_ne_nil] at missing
  obtain ⟨greatest, found⟩ := some_greatest
  rw [counts, found, Option.getD_some]
  obtain ⟨stands, bound⟩ := List.max?_eq_some_iff.mp found
  constructor
  · exact List.mem_map.mp stands
  · rintro n ⟨line, member, rfl⟩
    exact bound _ (List.mem_map_of_mem member)

theorem exists_widest (metrics : FontMetrics) (count : List Char → Nat) (fontSize : Float)
    (isBold : Bool) (text : String) : ∃ widest,
      IsGreatest {n | ∃ line ∈ text.toList.splitOn '\n', count line = n} widest ∧
      metrics.measureBy count fontSize isBold (plainMarkup text) =
        metrics.extentOf fontSize isBold (text.toList.splitOn '\n').length widest := by
  refine ⟨widestLine count text.toList, isGreatest_widestLine count text.toList, ?_⟩
  rw [measureBy_eq_extentOf, displayText_plainMarkup, feedParts_eq_splitOn]

end FontMetrics

/-- Escaping loses nothing, and does not show. Escaped text is displayed as the text that was
escaped, so no two names of lifelines become one; writing a text as a field and reading the field
escapes that text. What is displayed is what decoding in one pass gives, and escaped text has the
extent that the lines of the text have, in whatever way their columns are counted. -/
theorem markup_displays_its_text :
    (∀ text : String, displayText (plainMarkup text).toList = text.toList) ∧
    Function.Injective plainMarkup ∧
    (∀ (mode : Mode) (config : Config) (lines : List Line),
      (Builder.feed mode (Draft.blank config) lines).diagram.lifelines.keys =
        (lines.filterMap Line.declaredName?).eraseDups.map plainMarkup) ∧
    (∀ text : List Char, Quoted.unescape (Quoted.escape text) = text) ∧
    (∀ text : String, fieldMarkup (rawField text) = plainMarkup text) ∧
    (∀ markup text : List Char, Markup.decode markup = text ↔ Markup.Decodes markup text) ∧
    (∀ markup : List Char, displayText markup = Markup.decode markup) ∧
    (∀ (metrics : FontMetrics) (count : List Char → Nat) (fontSize : Float) (isBold : Bool)
      (text : String), ∃ widest,
      IsGreatest {n | ∃ line ∈ text.toList.splitOn '\n', count line = n} widest ∧
      metrics.measureBy count fontSize isBold (plainMarkup text) =
        metrics.extentOf fontSize isBold (text.toList.splitOn '\n').length widest) ∧
    (∀ (metrics : FontMetrics) (fontSize : Float) (isBold : Bool) (text : String), ∃ widest,
      IsGreatest {count | ∃ line ∈ text.toList.splitOn '\n', columns line = count} widest ∧
      metrics.measure fontSize isBold (plainMarkup text) =
        metrics.extentOf fontSize isBold (text.toList.splitOn '\n').length widest) :=
  ⟨displayText_plainMarkup, plainMarkup_injective, Builder.keys_feed,
    Quoted.unescape_escape, fieldMarkup_rawField, fun _ _ => Markup.decode_eq_iff,
    displayText_eq_decode, FontMetrics.exists_widest,
    fun metrics => metrics.exists_widest columns⟩

end Chronogram
