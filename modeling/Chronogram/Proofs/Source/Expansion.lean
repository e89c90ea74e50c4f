import Chronogram.Proofs.Table
import Chronogram.Proofs.Text.Row
import Chronogram.Source.Macros
import Mathlib.Data.List.Induction

/-!
Replacing macros is one simultaneous substitution.

A line falls into words and the characters between them, in one way only. Expansion replaces each
word that names a macro and keeps everything else where it stands. So the two sides of a character
between words are expanded apart from each other, only names that words can have are ever looked
up, and the text of a macro is put in as it is, whatever words it holds.
-/

namespace Chronogram

namespace Source

open Text

/-- A name that a word can have. -/
def IsName (name : List Char) : Prop :=
  name ≠ [] ∧ ∀ c ∈ name, isBlank c = false ∧ c ≠ ':'

instance (name : List Char) : Decidable (IsName name) :=
  have : Decidable (∀ c ∈ name, isBlank c = false ∧ c ≠ ':') := List.decidableBAll _ name
  inferInstanceAs (Decidable (_ ∧ _))

theorem isNameChar_iff {c : Char} : isNameChar c = true ↔ isBlank c = false ∧ c ≠ ':' := by
  simp [isNameChar]

theorem isNameChar_eq_false_iff {c : Char} :
    isNameChar c = false ↔ isBlank c = true ∨ c = ':' := by
  rw [← Bool.not_eq_true, isNameChar_iff, not_and_or, Bool.not_eq_false, not_not]

theorem isName_iff {name : List Char} :
    IsName name ↔ name ≠ [] ∧ ∀ c ∈ name, isNameChar c = true := by
  simp only [IsName, isNameChar_iff]

/-- A part of a line. -/
inductive Part where
  | word (text : List Char)
  | mark (c : Char)

namespace Part

def text : Part → List Char
  | word text => text
  | mark c => [c]

/-- What stands in the place of a part once all words that name macros have been replaced. -/
def replaced (macros : Macros) : Part → List Char
  | word text => (macros.get? (String.ofList text)).elim text String.toList
  | mark c => [c]

/-- Words have names, and the characters between words are blanks and colons. -/
def WellFormed : Part → Prop
  | word text => IsName text
  | mark c => isBlank c = true ∨ c = ':'

/-- Two parts that may stand side by side. -/
def Apart : Part → Part → Prop
  | word _, word _ => False
  | _, _ => True

/-- Put a character of a word in front of some parts. -/
def prepend (c : Char) : List Part → List Part
  | word text :: rest => word (c :: text) :: rest
  | rest => word [c] :: rest

end Part

/-- The parts that a line consists of. No two words stand side by side, so each word is as long as
it can be. -/
structure IsCut (line : List Char) (parts : List Part) : Prop where
  whole : parts.flatMap Part.text = line
  wellFormed : ∀ part ∈ parts, part.WellFormed
  apart : parts.IsChain Part.Apart

def cut : List Char → List Part
  | [] => []
  | c :: rest => if isNameChar c then Part.prepend c (cut rest) else .mark c :: cut rest

section Cut

variable {line before word after : List Char} {parts : List Part} {c : Char}

theorem Part.flatMap_text_prepend (c : Char) (parts : List Part) :
    (prepend c parts).flatMap text = c :: parts.flatMap text := by
  rcases parts with _ | ⟨_ | _, rest⟩ <;> rfl

theorem isCut_prepend (isCut : IsCut line parts) (inside : isNameChar c = true) :
    IsCut (c :: line) (Part.prepend c parts) := by
  obtain ⟨whole, wellFormed, apart⟩ := isCut
  refine ⟨by rw [Part.flatMap_text_prepend, whole], ?_, ?_⟩
  · have alone : (Part.word [c]).WellFormed := isName_iff.mpr ⟨by simp, by simpa using inside⟩
    rcases parts with _ | ⟨text | d, rest⟩
    · simpa [Part.prepend] using alone
    · obtain ⟨first, others⟩ := List.forall_mem_cons.mp wellFormed
      refine List.forall_mem_cons.mpr ⟨isName_iff.mpr ⟨by simp, ?_⟩, others⟩
      exact List.forall_mem_cons.mpr ⟨inside, (isName_iff.mp first).2⟩
    · exact List.forall_mem_cons.mpr ⟨alone, wellFormed⟩
  · rcases parts with _ | ⟨text | d, rest⟩
    · exact .singleton _
    · rcases rest with _ | ⟨_ | _, rest⟩
      · exact .singleton _
      · exact (List.isChain_cons_cons.mp apart).1.elim
      · exact List.isChain_cons_cons.mpr ⟨trivial, (List.isChain_cons_cons.mp apart).2⟩
    · exact List.isChain_cons_cons.mpr ⟨trivial, apart⟩

theorem isCut_cut (line : List Char) : IsCut line (cut line) := by
  induction line with
  | nil => exact ⟨rfl, by simp [cut], .nil⟩
  | cons c rest inductionHypothesis =>
      unfold cut
      split
      next inside => exact isCut_prepend inductionHypothesis inside
      next outside =>
        obtain ⟨whole, wellFormed, apart⟩ := inductionHypothesis
        refine ⟨congrArg (c :: ·) whole, ?_, ?_⟩
        · exact List.forall_mem_cons.mpr
            ⟨isNameChar_eq_false_iff.mp (Bool.eq_false_iff.mpr outside), wellFormed⟩
        · cases parts : cut rest with
          | nil => exact .singleton _
          | cons part others => exact List.isChain_cons_cons.mpr ⟨trivial, parts ▸ apart⟩

/-- Behind a character between words a new part begins. -/
theorem cut_append_mark (outside : isNameChar c = false) (before after : List Char) :
    cut (before ++ c :: after) = cut before ++ .mark c :: cut after := by
  induction before with
  | nil => simp [cut, outside]
  | cons d before inductionHypothesis =>
      have passed : ∀ parts, Part.prepend d (parts ++ .mark c :: cut after) =
          Part.prepend d parts ++ .mark c :: cut after := by
        rintro (_ | ⟨_ | _, rest⟩) <;> rfl
      rw [List.cons_append, cut, cut, inductionHypothesis, passed]
      split <;> rfl

theorem cut_append_of_ends (ends : ∀ c ∈ before.getLast?, isNameChar c = false)
    (after : List Char) : cut (before ++ after) = cut before ++ cut after := by
  rcases List.eq_nil_or_concat' before with rfl | ⟨front, c, rfl⟩
  · rfl
  · have outside : isNameChar c = false := by simpa using ends
    rw [List.append_assoc, List.singleton_append, cut_append_mark outside,
      cut_append_mark outside front [], List.append_assoc]
    rfl

theorem cut_append_of_starts (before : List Char) (starts : StartsOutside isNameChar after) :
    cut (before ++ after) = cut before ++ cut after := by
  cases after with
  | nil => simp [cut]
  | cons c after =>
      have outside : isNameChar c = false := by simpa using starts
      rw [cut_append_mark outside, cut, if_neg (Bool.eq_false_iff.mp outside)]

theorem cut_of_isName (isName : IsName word) : cut word = [.word word] := by
  obtain ⟨nonempty, inside⟩ := isName_iff.mp isName
  induction word with
  | nil => exact absurd rfl nonempty
  | cons c rest inductionHypothesis =>
      obtain ⟨first, others⟩ := List.forall_mem_cons.mp inside
      rw [cut, if_pos first]
      cases rest with
      | nil => rfl
      | cons d rest =>
          rw [inductionHypothesis (isName_iff.mpr ⟨List.cons_ne_nil d rest, others⟩)
            (List.cons_ne_nil d rest) others]
          rfl

/-- There is no other way to cut a line. -/
theorem IsCut.eq_cut (isCut : IsCut line parts) : parts = cut line := by
  obtain ⟨rfl, wellFormed, apart⟩ := isCut
  induction parts with
  | nil => rfl
  | cons part rest inductionHypothesis =>
      obtain ⟨first, others⟩ := List.forall_mem_cons.mp wellFormed
      have remaining := inductionHypothesis others (List.isChain_of_isChain_cons apart)
      rw [List.flatMap_cons]
      cases part with
      | mark c =>
          have outside : isNameChar c = false := isNameChar_eq_false_iff.mpr first
          exact (congrArg (Part.mark c :: ·) remaining).trans (cut_append_mark outside [] _).symm
      | word text =>
          have starts : StartsOutside isNameChar (rest.flatMap Part.text) := by
            rcases rest with _ | ⟨_ | c, rest⟩
            · simp
            · exact (List.isChain_cons_cons.mp apart).1.elim
            · have behind := others (.mark c) List.mem_cons_self
              simpa [Part.text] using isNameChar_eq_false_iff.mpr behind
          rw [Part.text, cut_append_of_starts text starts, cut_of_isName first, ← remaining]
          rfl

end Cut

namespace Macros

variable {macros others : Macros} {before word after : List Char}

theorem replaceReversed_eq {seen : List Char} (inside : ∀ c ∈ seen, isNameChar c = true) :
    macros.replaceReversed seen = (cut seen.reverse).flatMap (Part.replaced macros) := by
  cases seen with
  | nil => rfl
  | cons c seen =>
      have isName : IsName (c :: seen).reverse :=
        isName_iff.mpr ⟨by simp, fun d membership => inside d (List.mem_reverse.mp membership)⟩
      rw [cut_of_isName isName, List.flatMap_singleton, Part.replaced, replaceReversed, replace]
      cases macros.get? (String.ofList (c :: seen).reverse) <;> rfl

theorem expandFrom_eq {seen : List Char} (inside : ∀ c ∈ seen, isNameChar c = true)
    (line : List Char) :
    macros.expandFrom seen line =
      (cut (seen.reverse ++ line)).flatMap (Part.replaced macros) := by
  -- What has been seen is the front of a word, so it is only cut off where the word ends.
  induction line generalizing seen with
  | nil => rw [expandFrom, replaceReversed_eq inside, List.append_nil]
  | cons c rest inductionHypothesis =>
      unfold expandFrom
      split
      next first =>
        rw [inductionHypothesis (List.forall_mem_cons.mpr ⟨first, inside⟩)]
        simp
      next outside =>
        rw [cut_append_mark (Bool.eq_false_iff.mpr outside), replaceReversed_eq inside,
          inductionHypothesis (by simp), List.flatMap_append, List.flatMap_cons]
        rfl

/-- Expansion replaces the parts of a line, each on its own. -/
theorem expand_eq_flatMap (macros : Macros) (line : List Char) :
    macros.expand line = (cut line).flatMap (Part.replaced macros) := by
  rw [expand_eq_expandFrom, expandFrom_eq (by simp)]
  rfl

theorem expand_append_mark {c : Char} (outside : isNameChar c = false)
    (before after : List Char) :
    macros.expand (before ++ c :: after) = macros.expand before ++ c :: macros.expand after := by
  simp [expand_eq_flatMap, cut_append_mark outside, Part.replaced]

/-- A word that names a macro gives way to the text of the macro, which is left as it is. -/
theorem expand_word {text : String} (ends : ∀ c ∈ before.getLast?, isNameChar c = false)
    (isName : IsName word) (starts : StartsOutside isNameChar after)
    (given : macros.get? (String.ofList word) = some text) :
    macros.expand (before ++ word ++ after) =
      macros.expand before ++ text.toList ++ macros.expand after := by
  simp [expand_eq_flatMap, cut_append_of_starts _ starts, cut_append_of_ends ends,
    cut_of_isName isName, Part.replaced, given]

/-- Only names that words can have are looked up. -/
theorem expand_congr_names
    (same : ∀ name, IsName name.toList → others.get? name = macros.get? name)
    (line : List Char) : others.expand line = macros.expand line := by
  rw [expand_eq_flatMap, expand_eq_flatMap]
  refine List.flatMap_congr fun part membership => ?_
  cases part with
  | mark c => rfl
  | word text =>
      have isName : IsName text := (isCut_cut line).wellFormed _ membership
      rw [Part.replaced, Part.replaced, same _ (by rwa [String.toList_ofList])]

end Macros

/-- Expansion is one simultaneous substitution. A line is cut in exactly one way into words and the
blanks and colons between them, and expanding it replaces each word that names a macro and keeps all
else in place. So the two sides of a blank or colon are expanded apart from each other; the order of
the macros is of no account; a text is put in as it is, also where it holds names of macros; a macro
whose name is empty or holds a blank or a colon is never used; and passing over a line where there
are no macros gives what looking at its words would give, which is the line. -/
theorem expansion_is_one_substitution (macros : Macros) (line : List Char) :
    (∃ parts, IsCut line parts ∧ (∀ others, IsCut line others → others = parts) ∧
      macros.expand line = parts.flatMap (Part.replaced macros)) ∧
    (∀ before c after, isBlank c = true ∨ c = ':' →
      macros.expand (before ++ c :: after) =
        macros.expand before ++ c :: macros.expand after) ∧
    (∀ others : Macros, others.entries.Perm macros.entries →
      others.expand line = macros.expand line) ∧
    (∀ before name after text, (∀ c ∈ before.getLast?, isBlank c = true ∨ c = ':') →
      IsName name → (∀ c ∈ after.head?, isBlank c = true ∨ c = ':') →
      macros.get? (String.ofList name) = some text →
      macros.expand (before ++ name ++ after) =
        macros.expand before ++ text.toList ++ macros.expand after) ∧
    (∀ others : Macros,
      (∀ name, IsName name.toList → others.get? name = macros.get? name) →
      others.expand line = macros.expand line) ∧
    macros.expand line = macros.expandFrom [] line ∧
    Macros.expandFrom Table.empty [] line = line := by
  refine ⟨⟨cut line, isCut_cut line, fun _ isCut => isCut.eq_cut,
    macros.expand_eq_flatMap line⟩, ?_, ?_, ?_, ?_, macros.expand_eq_expandFrom line, ?_⟩
  · intro before c after outside
    exact Macros.expand_append_mark (isNameChar_eq_false_iff.mpr outside) before after
  · intro others reordered
    exact Macros.expand_congr_names (fun name _ => Table.get?_of_perm reordered name) line
  · intro before name after text ends isName starts given
    refine Macros.expand_word (fun c last => ?_) isName (fun c first => ?_) given
    · exact isNameChar_eq_false_iff.mpr (ends c last)
    · exact isNameChar_eq_false_iff.mpr (starts c first)
  · intro others same
    exact Macros.expand_congr_names same line
  · exact Macros.expandFrom_of_isEmpty rfl [] line

/-- Two macros whose texts name each other and themselves. -/
def mutualMacros : Macros :=
  Table.ofList [("A", "B A"), ("B", "A")]

theorem mutualMacros_end :
    let line := "A:B A2".toList
    let parts : List Part :=
      [.word ['A'], .mark ':', .word ['B'], .mark ' ', .word ['A', '2']]
    (IsCut line parts ∧ mutualMacros.expand line = parts.flatMap (Part.replaced mutualMacros)) ∧
    mutualMacros.expand line =
      mutualMacros.expand ['A'] ++ ':' :: mutualMacros.expand "B A2".toList ∧
    Macros.expand (Table.ofList [("B", "A"), ("A", "B A")]) line = mutualMacros.expand line ∧
    mutualMacros.expand line =
      mutualMacros.expand ['A', ':'] ++ ['A'] ++ mutualMacros.expand " A2".toList ∧
    Macros.expand (mutualMacros.insert "A:B" "C") line = mutualMacros.expand line ∧
    mutualMacros.expand line = "B A:A A2".toList := by
  intro line parts
  have isCut : IsCut line parts := by
    refine ⟨rfl, ?_, by simp [parts, Part.Apart]⟩
    simp only [parts, List.forall_mem_cons, Part.WellFormed]
    exact ⟨by decide, by decide, by decide, by decide, by decide, by simp⟩
  obtain ⟨⟨_, -, unique, expands⟩, apart, reordered, within, agrees, -⟩ :=
    expansion_is_one_substitution mutualMacros line
  refine ⟨⟨isCut, unique parts isCut ▸ expands⟩, apart ['A'] ':' _ (.inr rfl), ?_, ?_, ?_, ?_⟩
  · exact reordered _ (.swap ("A", "B A") ("B", "A") [])
  · have colon : ∀ c ∈ ['A', ':'].getLast?, isBlank c = true ∨ c = ':' := by simp
    have blank : ∀ c ∈ " A2".toList.head?, isBlank c = true ∨ c = ':' := by
      have isBlank_space : isBlank ' ' = true := by decide
      simp [isBlank_space]
    exact within ['A', ':'] ['B'] " A2".toList "A" colon (by decide) blank (by decide)
  · refine agrees _ fun name isName => ?_
    rw [Table.get?_insert, if_neg]
    rintro rfl
    exact absurd isName (by decide)
  · decide

end Source

end Chronogram
