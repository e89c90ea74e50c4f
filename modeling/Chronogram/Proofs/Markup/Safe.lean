import Chronogram.Diagram.Draft
import Mathlib.Data.List.Basic

/-!
Escaped text is safe.

A safe text has no character that could open or close a tag or a quoted value, and every ampersand
in it begins a reference to one of the five reserved characters. Texts that are safe can be put
together, so a text is safe if the markup of each of its characters is.
-/

namespace Chronogram

namespace Markup

/-- The references that stand for the reserved characters. -/
def references : List (List Char) :=
  ["&amp;".toList, "&quot;".toList, "&apos;".toList, "&gt;".toList, "&lt;".toList]

/-- A character that is not reserved, the ampersand left aside. -/
def IsPlain (c : Char) : Prop :=
  c ≠ '<' ∧ c ≠ '>' ∧ c ≠ '"' ∧ c ≠ '\''

instance (c : Char) : Decidable (IsPlain c) :=
  inferInstanceAs (Decidable (_ ∧ _))

/-- Text that stands for itself wherever it is put in a document. -/
structure Safe (text : List Char) : Prop where
  plain : ∀ c ∈ text, IsPlain c
  referenced : ∀ before after, text = before ++ '&' :: after →
    ∃ reference ∈ references, reference <+: '&' :: after

theorem safe_nil : Safe [] where
  plain := by simp
  referenced := by simp

theorem Safe.append {first second : List Char} (safeFirst : Safe first) (safeSecond : Safe second) :
    Safe (first ++ second) where
  plain := by
    intro c membership
    rcases List.mem_append.mp membership with inFirst | inSecond
    · exact safeFirst.plain c inFirst
    · exact safeSecond.plain c inSecond
  referenced := by
    intro before after split
    rcases List.append_eq_append_iff.mp split with ⟨middle, -, inSecond⟩ | ⟨middle, inFirst, remains⟩
    · exact safeSecond.referenced middle after inSecond
    · cases middle with
      | nil => exact safeSecond.referenced [] after remains.symm
      | cons c rest =>
          obtain ⟨rfl, rfl⟩ := List.cons.inj remains
          obtain ⟨reference, known, prefixed⟩ := safeFirst.referenced before rest inFirst
          exact ⟨reference, known, prefixed.trans (List.prefix_append _ second)⟩

theorem Safe.of_cons {c : Char} {rest : List Char} (safe : Safe (c :: rest)) : Safe rest where
  plain := fun other membership => safe.plain other (List.mem_cons_of_mem c membership)
  referenced := by
    intro before after split
    exact safe.referenced (c :: before) after (congrArg (c :: ·) split)

theorem safe_of_forall {text : List Char} (plain : ∀ c ∈ text, IsPlain c) (closed : '&' ∉ text) :
    Safe text where
  plain := plain
  referenced := by
    intro before after split
    exact absurd (split ▸ List.mem_append_right before List.mem_cons_self) closed

/-- A reference is safe, since it has its only ampersand in front. -/
theorem safe_of_mem_references {reference : List Char} (known : reference ∈ references) :
    Safe reference := by
  have shaped : ∀ reference ∈ references,
      reference.all (fun c => IsPlain c) = true ∧ '&' ∉ reference.tail := by
    decide
  obtain ⟨allPlain, single⟩ := shaped reference known
  have plain : ∀ c ∈ reference, IsPlain c := by simpa using allPlain
  refine ⟨plain, fun before after split => ⟨reference, known, ?_⟩⟩
  cases before with
  | nil => exact split ▸ List.prefix_rfl
  | cons c rest =>
      refine absurd ?_ single
      rw [split]
      exact List.mem_append_right rest List.mem_cons_self

theorem safe_escapeChar (c : Char) : Safe (escapeChar c) := by
  unfold escapeChar
  split
  case h_6 notAmpersand notQuote notApostrophe notGreater notLess =>
    refine safe_of_forall ?_ ?_
    · intro other membership
      rw [List.mem_singleton.mp membership]
      exact ⟨notLess, notGreater, notQuote, notApostrophe⟩
    · intro membership
      exact notAmpersand (List.mem_singleton.mp membership).symm
  all_goals exact safe_of_mem_references (by simp [references])

theorem safe_escape (text : List Char) : Safe (escape text) := by
  induction text with
  | nil => exact safe_nil
  | cons c rest inductionHypothesis =>
      rw [escape, List.flatMap_cons]
      exact (safe_escapeChar c).append inductionHypothesis

end Markup

theorem safe_plainMarkup (text : String) : Markup.Safe (plainMarkup text).toList := by
  rw [plainMarkup, String.toList_ofList]
  exact Markup.safe_escape text.toList

end Chronogram
