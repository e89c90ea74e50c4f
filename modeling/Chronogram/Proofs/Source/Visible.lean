import Chronogram.Proofs.Source.Comment
import Chronogram.Proofs.Source.Expansion
import Chronogram.Proofs.Source.Silence
import Chronogram.Proofs.Text.Trim

/-!
What a raw line is.

A raw line counts for what is left of it without its comment and without the blanks around it: it is
nothing, the definition of a macro, or a statement, and never two of these. What is left is left
again when it is treated as a raw line of its own, so it is told in the same way.
-/

namespace Chronogram

open Text

namespace Source

/-- What is left of a raw line without its comment and without the blanks around it. -/
def visible (raw : List Char) : List Char :=
  trim (stripComment raw)

/-- A line that defines a macro: the keyword, blanks, a name, and, unless the line ends there, a
blank and a text. -/
def Defines (line : List Char) (found : Definition) : Prop :=
  ∃ blanks name rest, (blanks ≠ [] ∧ ∀ c ∈ blanks, isBlank c = true) ∧ IsName name ∧
    (∀ c ∈ rest.head?, isBlank c = true) ∧
    line = "macro".toList ++ (blanks ++ (name ++ rest)) ∧
    found = ⟨String.ofList name, String.ofList (trim rest)⟩

/-- What a raw line is. -/
inductive RawLine.Describes (raw : List Char) : RawLine → Prop where
  | nothing :
      (∀ c ∈ raw, isBlank c = true) ∨ (∀ c ∈ stripComment raw, isBlank c = true) →
      Describes raw .nothing
  | definition {found : Definition} :
      Defines (visible raw) found → Describes raw (.definition found)
  | statement :
      visible raw ≠ [] → (∀ found, ¬Defines (visible raw) found) →
      Describes raw (.statement (visible raw))

/-! ### Cutting off a comment once and again -/

theorem beforeComment_of_append {place : Place} {text rest : List Char}
    (kept : beforeComment place (text ++ rest) = text ++ rest) :
    beforeComment place text = text := by
  induction text generalizing place with
  | nil => rfl
  | cons c text inductionHypothesis =>
      rw [List.cons_append, beforeComment] at kept
      rw [beforeComment]
      split at kept
      next => simp at kept
      next passes =>
        rw [if_neg passes, inductionHypothesis (List.cons.inj kept).2]

@[simp]
theorem stripComment_visible (raw : List Char) : stripComment (visible raw) = visible raw := by
  obtain ⟨front, back, blank, -, whole⟩ := exists_split_trim (stripComment raw)
  have again : stripComment (stripComment raw) = stripComment raw :=
    beforeComment_beforeComment .afterBlank raw
  -- A cut line stays whole, so the part of it behind its first blanks does, and all that this
  -- part starts with.
  rw [whole, stripComment, beforeComment_blanks_append blank] at again
  exact beforeComment_of_append (List.append_cancel_left again)

@[simp]
theorem visible_visible (raw : List Char) : visible (visible raw) = visible raw := by
  rw [visible, stripComment_visible, visible, trim_trim]

theorem visible_eq_nil_iff {raw : List Char} :
    visible raw = [] ↔
      (∀ c ∈ raw, isBlank c = true) ∨ (∀ c ∈ stripComment raw, isBlank c = true) := by
  rw [visible, trim_eq_nil_iff]
  refine ⟨.inr, ?_⟩
  rintro (blank | blank)
  · exact fun c kept => blank c (mem_of_mem_beforeComment kept)
  · exact blank

theorem visible_of_isCommentLine {raw : List Char} (comment : isCommentLine raw = true) :
    visible raw = [] := by
  obtain ⟨rest, behind⟩ : ∃ rest, trimStart raw = '#' :: rest := by
    rw [isCommentLine, beq_iff_eq, List.head?_eq_some_iff] at comment
    exact comment
  have whole : raw = raw.takeWhile isBlank ++ '#' :: rest := by
    rw [← behind]
    exact List.takeWhile_append_dropWhile.symm
  have blank : ∀ c ∈ raw.takeWhile isBlank, isBlank c = true := fun c => List.mem_takeWhile_imp
  refine visible_eq_nil_iff.mpr (.inr ?_)
  rwa [whole, stripComment, beforeComment_blanks blank]

/-! ### Reading definitions -/

theorem startsOutside_name {name : List Char} (isName : IsName name) (rest : List Char) :
    StartsOutside isBlank (name ++ rest) := by
  obtain ⟨nonempty, inside⟩ := isName
  rw [startsOutside_append nonempty]
  exact fun c first => (inside c (List.mem_of_mem_head? first)).1

theorem read?_of_defines {line : List Char} {found : Definition} (defines : Defines line found) :
    Definition.read? line = some found := by
  obtain ⟨blanks, name, rest, ⟨nonempty, blank⟩, isName, ends, rfl, rfl⟩ := defines
  have keyword : definitionKeyword = "macro".toList := rfl
  have isDefinition : definitionKeyword.isPrefixOf ("macro".toList ++ (blanks ++ (name ++ rest))) :=
    List.isPrefixOf_iff_prefix.mpr (List.prefix_append _ _)
  have inside : ∀ c ∈ name, isNameChar c = true := (isName_iff.mp isName).2
  have outside : StartsOutside isNameChar rest := fun c first =>
    isNameChar_eq_false_iff.mpr (.inl (ends c first))
  have startsBlank : (blanks ++ (name ++ rest)).head?.any isBlank = true := by
    cases blanks with
    | nil => exact absurd rfl nonempty
    | cons c others => exact blank c List.mem_cons_self
  have ended : rest.head?.all isBlank = true := by simpa [Option.all_eq_true] using ends
  have trimmed : trimStart (blanks ++ (name ++ rest)) = name ++ rest :=
    dropWhile_row blank (startsOutside_name isName rest)
  rw [Definition.read?, if_pos isDefinition, keyword, List.drop_left]
  simp only [trimmed, takeWhile_row inside outside, dropWhile_row inside outside, startsBlank, ended]
  simp [isName.1]

theorem defines_of_read? {line : List Char} {found : Definition}
    (read : Definition.read? line = some found) : Defines line found := by
  unfold Definition.read? at read
  by_cases isDefinition : definitionKeyword.isPrefixOf line = true
  · obtain ⟨afterKeyword, rfl⟩ := List.isPrefixOf_iff_prefix.mp isDefinition
    rw [if_pos isDefinition, List.drop_left] at read
    simp only [Option.ite_none_right_eq_some, Bool.and_eq_true, Option.some.injEq] at read
    obtain ⟨⟨⟨startsBlank, named⟩, ends⟩, rfl⟩ := read
    refine ⟨afterKeyword.takeWhile isBlank, (trimStart afterKeyword).takeWhile isNameChar,
      (trimStart afterKeyword).dropWhile isNameChar, ⟨?_, fun c => List.mem_takeWhile_imp⟩,
      isName_iff.mpr ⟨by simpa using named, fun c => List.mem_takeWhile_imp⟩, ?_, ?_, rfl⟩
    · cases afterKeyword with
      | nil => simp at startsBlank
      | cons c others =>
          have blank : isBlank c = true := startsBlank
          simp [blank]
    · simpa [Option.all_eq_true] using ends
    · rw [List.takeWhile_append_dropWhile, trimStart, List.takeWhile_append_dropWhile]
      rfl
  · simp [isDefinition] at read

theorem Defines.nonempty {line : List Char} {found : Definition} (defines : Defines line found) :
    line ≠ [] := by
  obtain ⟨blanks, name, rest, -, -, -, rfl, -⟩ := defines
  simp

/-! ### Telling what a line is -/

theorem ofText_eq (raw : List Char) :
    RawLine.ofText raw =
      if (visible raw).isEmpty then .nothing
      else match Definition.read? (visible raw) with
        | some found => .definition found
        | none => .statement (visible raw) := by
  by_cases comment : isCommentLine raw = true
  · rw [RawLine.ofText, if_pos comment, visible_of_isCommentLine comment]
    rfl
  · rw [RawLine.ofText, if_neg comment]
    rfl

@[simp]
theorem ofText_visible (raw : List Char) : RawLine.ofText (visible raw) = RawLine.ofText raw := by
  rw [ofText_eq, ofText_eq, visible_visible]

namespace RawLine

variable {raw : List Char} {kind : RawLine}

theorem describes_ofText (raw : List Char) : Describes raw (ofText raw) := by
  rw [ofText_eq]
  by_cases empty : visible raw = []
  · rw [empty]
    exact .nothing (visible_eq_nil_iff.mp empty)
  · rw [if_neg (by simpa using empty)]
    cases read : Definition.read? (visible raw) with
    | some found => exact .definition (defines_of_read? read)
    | none =>
        refine .statement empty fun found defines => ?_
        simp [read?_of_defines defines] at read

theorem Describes.eq_ofText (describes : Describes raw kind) : kind = ofText raw := by
  rw [ofText_eq]
  cases describes with
  | nothing blank => rw [visible_eq_nil_iff.mpr blank]; rfl
  | definition defines =>
      rw [if_neg (by simpa using defines.nonempty), read?_of_defines defines]
  | statement nonempty undefined =>
      have unread : Definition.read? (visible raw) = none :=
        Option.eq_none_iff_forall_ne_some.mpr fun found read =>
          undefined found (defines_of_read? read)
      rw [if_neg (by simpa using nonempty), unread]

theorem describes_iff : Describes raw kind ↔ ofText raw = kind :=
  ⟨fun describes => describes.eq_ofText.symm, fun same => same ▸ describes_ofText raw⟩

theorem existsUnique_describes (raw : List Char) : ∃! kind, Describes raw kind :=
  ⟨ofText raw, describes_ofText raw, fun _ describes => describes.eq_ofText⟩

theorem statement?_eq_some_iff {text : List Char} :
    (ofText raw).statement? = some text ↔ Describes raw (.statement text) := by
  rw [describes_iff]
  cases ofText raw <;> simp [statement?]

end RawLine

theorem definition?_eq_some_iff {raw : List Char} {found : Definition} :
    (RawLine.ofText raw).definition? = some found ↔ RawLine.Describes raw (.definition found) := by
  rw [RawLine.describes_iff]
  cases RawLine.ofText raw <;> simp [RawLine.definition?]

end Source

end Chronogram
