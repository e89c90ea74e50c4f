import Chronogram.Proofs.Diagram.Renumbering
import Chronogram.Proofs.Source.RawLines
import Chronogram.Proofs.Text.Trim
import Mathlib.Data.List.TakeWhile

/-!
Blank lines and comment lines only count.

A silent line contributes neither a definition nor a statement, so inserting one leaves the macros
and the statements of a text as they are. Since numbers are numbers of raw lines, the statements
behind it stand one line further down, and whatever is read or found wrong comes out as before, with
these numbers.
-/

namespace Chronogram

open Source Text

namespace Source

/-- A line is silent if its first character that is not blank, where it has one, is a number sign. -/
def IsSilent (raw : List Char) : Prop :=
  ∀ c ∈ raw.find? (!isBlank ·), c = '#'

instance (raw : List Char) : Decidable (IsSilent raw) :=
  Option.decidableForallMem (raw.find? (!isBlank ·))

/-- The number of a line after a line has been inserted behind the first lines of a text. -/
def pastInsertion (place number : Nat) : Nat :=
  if number ≤ place then number else number + 1

theorem mem_of_mem_beforeComment {place : Place} {line : List Char} {c : Char}
    (kept : c ∈ beforeComment place line) : c ∈ line := by
  induction line generalizing place with
  | nil => exact kept
  | cons d rest inductionHypothesis =>
      unfold beforeComment at kept
      split at kept
      · simp at kept
      · rcases List.mem_cons.mp kept with same | later
        · exact same ▸ List.mem_cons_self
        · exact List.mem_cons_of_mem d (inductionHypothesis later)

theorem ofText_of_isSilent {raw : List Char} (silent : IsSilent raw) :
    RawLine.ofText raw = .nothing := by
  cases first : raw.find? (!isBlank ·) with
  | some c =>
      have comment : isCommentLine raw = true := by
        rw [isCommentLine, trimStart, ← List.find?_not_eq_head?_dropWhile, first, silent c first]
        rfl
      simp [RawLine.ofText, comment]
  | none =>
      have blank : ∀ c ∈ raw, isBlank c = true := by simpa using first
      have empty : trim (stripComment raw) = [] :=
        trim_eq_nil_iff.mpr fun c kept => blank c (mem_of_mem_beforeComment kept)
      simp [RawLine.ofText, empty]

theorem definition?_of_isSilent {raw : List Char} (silent : IsSilent raw) :
    definition? raw = none := by
  simp [definition?, ofText_of_isSilent silent, RawLine.definition?]

theorem statementText?_of_isSilent {raw : List Char} (silent : IsSilent raw) (macros : Macros) :
    statementText? macros raw = none := by
  simp [statementText?, ofText_of_isSilent silent, RawLine.statement?]

section Insertion

variable {raw : List Char} {text? : List Char → Option String}

theorem filterMap_insertIdx {β : Type} {f : List Char → Option β} (nothing : f raw = none)
    (place : Nat) (raws : List (List Char)) :
    (raws.insertIdx place raw).filterMap f = raws.filterMap f := by
  induction place generalizing raws with
  | zero => simp [nothing]
  | succ place inductionHypothesis =>
      cases raws with
      | nil => rfl
      | cons first rest =>
          rw [List.insertIdx_succ_cons, List.filterMap_cons, List.filterMap_cons,
            inductionHypothesis]

theorem numberedTexts_succ (text? : List Char → Option String) (start : Nat)
    (raws : List (List Char)) :
    numberedTexts text? (start + 1) raws =
      (numberedTexts text? start raws).map (Line.renumber (· + 1)) := by
  induction raws generalizing start with
  | nil => rfl
  | cons raw rest inductionHypothesis =>
      rw [numberedTexts_cons, numberedTexts_cons, List.map_append, inductionHypothesis]
      cases text? raw <;> rfl

theorem le_number_of_mem_numberedTexts {start : Nat} {raws : List (List Char)} {line : Line}
    (stands : line ∈ numberedTexts text? start raws) : start ≤ line.number := by
  obtain ⟨entry, membership, written⟩ := List.mem_filterMap.mp stands
  obtain ⟨text, -, rfl⟩ := Option.map_eq_some_iff.mp written
  exact List.le_snd_of_mem_zipIdx membership

/-- Inserting a line that gives no text moves the numbers of the later texts by one. -/
theorem numberedTexts_insertIdx (nothing : text? raw = none) (place start : Nat)
    (raws : List (List Char)) :
    numberedTexts text? (start + 1) (raws.insertIdx place raw) =
      (numberedTexts text? (start + 1) raws).map
        (Line.renumber (pastInsertion (start + place))) := by
  induction place generalizing raws start with
  | zero =>
      rw [List.insertIdx_zero, numberedTexts_cons, nothing, numberedTexts_succ]
      refine List.map_congr_left fun line stands => ?_
      have behind : ¬line.number ≤ start :=
        Nat.not_le_of_lt (le_number_of_mem_numberedTexts stands)
      simp [Line.renumber, pastInsertion, behind]
  | succ place inductionHypothesis =>
      cases raws with
      | nil => rfl
      | cons first rest =>
          have same : start + (place + 1) = start + 1 + place := by omega
          have inFront : pastInsertion (start + 1 + place) (start + 1) = start + 1 :=
            if_pos (Nat.le_add_right _ _)
          rw [List.insertIdx_succ_cons, numberedTexts_cons, numberedTexts_cons, List.map_append,
            inductionHypothesis, same]
          cases text? first with
          | none => rfl
          | some text => simp [Line.renumber, inFront]

end Insertion

namespace Script

variable {raw : List Char}

theorem macros_insertIdx (silent : IsSilent raw) (place : Nat) (raws : List (List Char)) :
    (ofLines (raws.insertIdx place raw)).macros = (ofLines raws).macros := by
  rw [macros_ofLines, macros_ofLines, filterMap_insertIdx (definition?_of_isSilent silent)]

theorem lines_insertIdx (silent : IsSilent raw) (place : Nat) (raws : List (List Char)) :
    (ofLines (raws.insertIdx place raw)).lines =
      (ofLines raws).lines.map (Line.renumber (pastInsertion place)) := by
  have moved := numberedTexts_insertIdx (statementText?_of_isSilent silent (ofLines raws).macros)
    place 0 raws
  rw [lines_ofLines, lines_ofLines, macros_insertIdx silent]
  simpa only [Nat.zero_add] using moved

end Script

end Source

/-- A silent line only counts. Inserted anywhere it leaves the macros as they are, and the statements
too, those behind it with numbers one greater. So under all settings the text with the line comes to
the same diagram, warnings or fault as the text without it, with these numbers. -/
theorem silent_line_only_counts (raws : List (List Char)) (place : Nat) (raw : List Char)
    (silent : IsSilent raw) :
    (Script.ofLines (raws.insertIdx place raw)).macros =
      (Script.ofLines raws).macros ∧
    (Script.ofLines (raws.insertIdx place raw)).lines =
      (Script.ofLines raws).lines.map
        (Line.renumber (pastInsertion place)) ∧
    ∀ (settings : Settings) (text longer : String),
      lines text.toList = raws → lines longer.toList = raws.insertIdx place raw →
      settings.draft longer =
        Draft.renumberResult (pastInsertion place) (settings.draft text) := by
  have sameMacros := Script.macros_insertIdx silent place raws
  have sameLines := Script.lines_insertIdx silent place raws
  refine ⟨sameMacros, sameLines, ?_⟩
  intro settings text longer cut cutLonger
  unfold Settings.draft
  rw [Script.ofText_eq, Script.ofText_eq, cut, cutLonger, sameLines,
    ← Draft.steps_renumber, Draft.renumber_blank]

/-- A comment in the second line moves the fault of the line that was the second to the third. -/
theorem comment_only_counts :
    IsSilent "\t # a note".toList ∧
    lines "lifeline \"a\"\n\t # a note\r\nwhat\n".toList =
      (lines "lifeline \"a\"\nwhat\n".toList).insertIdx 1 "\t # a note".toList ∧
    { Settings.standard with mode := .strict }.draft "lifeline \"a\"\n\t # a note\r\nwhat\n" =
      .error ⟨3, .unrecognizedStatement "what"⟩ := by
  have silent : IsSilent "\t # a note".toList := by decide
  have cut : lines "lifeline \"a\"\n\t # a note\r\nwhat\n".toList =
      (lines "lifeline \"a\"\nwhat\n".toList).insertIdx 1 "\t # a note".toList := by decide
  refine ⟨silent, cut, ?_⟩
  rw [(silent_line_only_counts _ 1 _ silent).2.2 _ _ _ rfl cut]
  rfl

end Chronogram
