import Chronogram.Proofs.Text.Row
import Mathlib.Data.List.DropRight

/-!
Trimmed texts.

Trimming takes nothing but blanks away, and leaves a text that neither starts nor ends with one. A
text of this kind is left as it is.
-/

namespace Chronogram.Text

variable {text : List Char}

theorem trimStart_eq_self (starts : StartsOutside isBlank text) : trimStart text = text := by
  have nothing : ∀ c ∈ ([] : List Char), isBlank c = true := by simp
  exact dropWhile_row nothing starts

theorem trimEnd_eq_self (ends : ∀ c ∈ text.getLast?, isBlank c = false) : trimEnd text = text := by
  have reversed : StartsOutside isBlank text.reverse := by
    simpa [StartsOutside, List.head?_reverse] using ends
  unfold trimEnd
  rw [← trimStart, trimStart_eq_self reversed, List.reverse_reverse]

theorem trim_eq_self (starts : StartsOutside isBlank text)
    (ends : ∀ c ∈ text.getLast?, isBlank c = false) : trim text = text := by
  rw [trim, trimStart_eq_self starts, trimEnd_eq_self ends]

section BothEnds

variable (belongs : Char → Bool) (text : List Char)

/-- What is taken away on the two sides. -/
theorem exists_split_dropWhile :
    ∃ front back, (∀ c ∈ front, belongs c = true) ∧ (∀ c ∈ back, belongs c = true) ∧
      text = front ++ ((text.dropWhile belongs).rdropWhile belongs ++ back) := by
  refine ⟨text.takeWhile belongs, (text.dropWhile belongs).rtakeWhile belongs,
    fun c => List.mem_takeWhile_imp, fun c => List.mem_rtakeWhile_imp, ?_⟩
  have back : (text.dropWhile belongs).rdropWhile belongs ++
      (text.dropWhile belongs).rtakeWhile belongs = text.dropWhile belongs := by
    rw [List.rdropWhile, List.rtakeWhile, ← List.reverse_append, List.takeWhile_append_dropWhile,
      List.reverse_reverse]
  rw [back, List.takeWhile_append_dropWhile]

theorem ends_rdropWhile : ∀ c ∈ (text.rdropWhile belongs).getLast?, belongs c = false := by
  intro c last
  rw [List.rdropWhile, List.getLast?_reverse] at last
  exact startsOutside_dropWhile belongs _ c last

theorem startsOutside_rdropWhile :
    StartsOutside belongs ((text.dropWhile belongs).rdropWhile belongs) := by
  obtain ⟨back, whole⟩ := List.rdropWhile_prefix belongs (text.dropWhile belongs)
  by_cases nothing : (text.dropWhile belongs).rdropWhile belongs = []
  · simp [nothing]
  · rw [← startsOutside_append nothing back, whole]
    exact startsOutside_dropWhile belongs text

end BothEnds

theorem exists_split_trim (text : List Char) :
    ∃ front back, (∀ c ∈ front, isBlank c = true) ∧ (∀ c ∈ back, isBlank c = true) ∧
      text = front ++ (trim text ++ back) :=
  exists_split_dropWhile isBlank text

theorem ends_trim (text : List Char) : ∀ c ∈ (trim text).getLast?, isBlank c = false :=
  ends_rdropWhile isBlank (trimStart text)

theorem startsOutside_trim (text : List Char) : StartsOutside isBlank (trim text) :=
  startsOutside_rdropWhile isBlank text

@[simp]
theorem trim_trim (text : List Char) : trim (trim text) = trim text :=
  trim_eq_self (startsOutside_trim text) (ends_trim text)

theorem trim_eq_nil_iff : trim text = [] ↔ ∀ c ∈ text, isBlank c = true := by
  constructor
  · intro nothing
    obtain ⟨front, back, blankFront, blankBack, whole⟩ := exists_split_trim text
    rw [nothing, List.nil_append] at whole
    rw [whole]
    exact List.forall_mem_append.mpr ⟨blankFront, blankBack⟩
  · intro blank
    have nothing : trimStart text = [] := List.dropWhile_eq_nil_iff.mpr blank
    rw [trim, nothing]
    rfl

/-- Blanks on either side make no difference. -/
theorem trim_append {front back : List Char} (blankFront : ∀ c ∈ front, isBlank c = true)
    (blankBack : ∀ c ∈ back, isBlank c = true) (text : List Char) :
    trim (front ++ text ++ back) = trim text := by
  have ended : ∀ text, trimEnd (text ++ back) = trimEnd text := by
    intro text
    unfold trimEnd
    rw [List.reverse_append, List.dropWhile_append_of_pos (by simpa using blankBack)]
  unfold trim
  rw [trimStart, List.append_assoc, List.dropWhile_append_of_pos blankFront, ← trimStart]
  by_cases nothing : trimStart text = []
  · have blank : ∀ c ∈ text ++ back, isBlank c = true :=
      List.forall_mem_append.mpr ⟨List.dropWhile_eq_nil_iff.mp nothing, blankBack⟩
    rw [nothing, trimStart, List.dropWhile_eq_nil_iff.mpr blank]
  · rw [trimStart, List.dropWhile_append, ← trimStart, if_neg (by simpa using nothing)]
    exact ended (trimStart text)

theorem mem_of_mem_trim {c : Char} (kept : c ∈ trim text) : c ∈ text := by
  obtain ⟨front, back, -, -, whole⟩ := exists_split_trim text
  rw [whole]
  exact List.mem_append_right front (List.mem_append_left back kept)

end Chronogram.Text
