import Chronogram.Text.Blank
import Chronogram.Text.Digit
import Chronogram.Text.Word
import Mathlib.Data.List.TakeWhile

/-!
Rows of characters of one class.

A row that is taken as far as it goes ends where it should exactly if what follows starts outside
its class. The classes of the line forms that stand next to each other are disjoint.
-/

namespace Chronogram.Text

/-- A text does not start with a character of a class. -/
def StartsOutside (belongs : Char → Bool) (line : List Char) : Prop :=
  ∀ c ∈ line.head?, belongs c = false

@[simp]
theorem startsOutside_nil (belongs : Char → Bool) : StartsOutside belongs [] := by
  simp [StartsOutside]

@[simp]
theorem startsOutside_cons (belongs : Char → Bool) (c : Char) (rest : List Char) :
    StartsOutside belongs (c :: rest) ↔ belongs c = false := by
  simp [StartsOutside]

theorem startsOutside_append {belongs : Char → Bool} {line : List Char} (nonempty : line ≠ [])
    (rest : List Char) :
    StartsOutside belongs (line ++ rest) ↔ StartsOutside belongs line := by
  cases line with
  | nil => exact absurd rfl nonempty
  | cons c line => simp

theorem startsOutside_dropWhile (belongs : Char → Bool) (line : List Char) :
    StartsOutside belongs (line.dropWhile belongs) := by
  induction line with
  | nil => simp
  | cons c rest inductionHypothesis =>
      by_cases inside : belongs c = true
      · simpa [inside] using inductionHypothesis
      · simp [inside]

variable {belongs : Char → Bool} {taken rest : List Char}

theorem takeWhile_row (inside : ∀ c ∈ taken, belongs c = true)
    (outside : StartsOutside belongs rest) :
    (taken ++ rest).takeWhile belongs = taken := by
  rw [List.takeWhile_append_of_pos inside]
  cases rest with
  | nil => simp
  | cons c rest =>
      have stops : belongs c = false := by simpa using outside
      simp [stops]

theorem dropWhile_row (inside : ∀ c ∈ taken, belongs c = true)
    (outside : StartsOutside belongs rest) :
    (taken ++ rest).dropWhile belongs = rest := by
  rw [List.dropWhile_append_of_pos inside]
  cases rest with
  | nil => simp
  | cons c rest =>
      have stops : belongs c = false := by simpa using outside
      simp [stops]

def Ranges.codes (ranges : Ranges) : List Nat :=
  ranges.flatMap fun (first, last) => List.range' first (last + 1 - first)

theorem Ranges.mem_codes_of_contains {ranges : Ranges} {code : Nat}
    (found : ranges.contains code = true) : code ∈ ranges.codes := by
  obtain ⟨range, membership, lower, upper⟩ := Ranges.exists_of_contains found
  refine List.mem_flatMap.mpr ⟨range, membership, ?_⟩
  simp only [List.mem_range'_1]
  omega

theorem isDigit_eq_false_of_isBlank {c : Char} (blank : isBlank c = true) : isDigit c = false := by
  have disjoint : ∀ code ∈ blankRanges.codes, digitRanges.contains code = false := by decide +kernel
  exact disjoint _ (Ranges.mem_codes_of_contains blank)

theorem isWordChar_eq_false_of_isBlank {c : Char} (blank : isBlank c = true) :
    isWordChar c = false := by
  have disjoint : ∀ code ∈ blankRanges.codes, wordRanges.contains code = false := by decide +kernel
  exact disjoint _ (Ranges.mem_codes_of_contains blank)

end Chronogram.Text
