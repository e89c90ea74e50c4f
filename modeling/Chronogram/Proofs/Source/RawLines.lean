import Chronogram.Compiler
import Mathlib.Data.List.Basic

/-!
What each raw line contributes.

A raw line holds a definition, the text of a statement, or nothing, and which of these it is depends
on the line alone. The macros of a text come from its definitions in order; its statements come from
the other lines in order, each with the number of its line.
-/

namespace Chronogram.Source

open Text

def definition? (raw : List Char) : Option Definition :=
  (RawLine.ofText raw).definition?

/-- The text of the statement on a raw line, if anything of it is left under some macros. -/
def statementText? (macros : Macros) (raw : List Char) : Option String :=
  (RawLine.ofText raw).statement?.bind fun text =>
    let expanded := trim (macros.expand text)
    if expanded.isEmpty then none else some (String.ofList expanded)

/-- The texts on some raw lines, each with the number of its line. -/
def numberedTexts (text? : List Char → Option String) (start : Nat) (raws : List (List Char)) :
    List Line :=
  (raws.zipIdx start).filterMap fun (raw, number) => (text? raw).map (Line.mk number)

/-- The kind of the statement on a raw line, if it is one of the known kinds. -/
def statementKind? (macros : Macros) (raw : List Char) : Option StatementKind :=
  (statementText? macros raw).bind fun text => (Statement.read? text).map Statement.kind

/-- Take a text apart that has been cut into lines. -/
def Script.ofLines (raws : List (List Char)) : Script :=
  let numbered := (raws.map RawLine.ofText).zipIdx 1
  let macros := Macros.ofDefinitions (definitions numbered)
  { lines := numbered.filterMap fun (raw, number) => expandLine? macros raw number
    macros }

theorem Script.ofText_eq (text : String) : ofText text = ofLines (Text.lines text.toList) := rfl

theorem expandLine?_eq (macros : Macros) (raw : List Char) (number : Nat) :
    expandLine? macros (RawLine.ofText raw) number =
      (statementText? macros raw).map (Line.mk number) := by
  unfold expandLine? statementText?
  cases (RawLine.ofText raw).statement? with
  | none => rfl
  | some text =>
      simp only [Option.bind_some]
      split <;> rfl

theorem statementText?_eq_none_of_definition? {raw : List Char} {found : Definition}
    (defines : definition? raw = some found) (macros : Macros) : statementText? macros raw = none := by
  unfold definition? at defines
  unfold statementText?
  cases kind : RawLine.ofText raw with
  | definition => rfl
  | nothing | statement => simp [kind, RawLine.definition?] at defines

theorem numberedTexts_cons (text? : List Char → Option String) (start : Nat) (raw : List Char)
    (rest : List (List Char)) :
    numberedTexts text? start (raw :: rest) =
      ((text? raw).map (Line.mk start)).toList ++ numberedTexts text? (start + 1) rest := by
  simp only [numberedTexts, List.zipIdx_cons, List.filterMap_cons]
  cases text? raw <;> rfl

theorem numberedTexts_append (text? : List Char → Option String) (start : Nat)
    (first second : List (List Char)) :
    numberedTexts text? start (first ++ second) =
      numberedTexts text? start first ++ numberedTexts text? (start + first.length) second := by
  rw [numberedTexts, List.zipIdx_append, List.filterMap_append]
  rfl

theorem numberedTexts_eq_nil {text? : List Char → Option String} {raws : List (List Char)}
    (nothing : ∀ raw ∈ raws, text? raw = none) (start : Nat) :
    numberedTexts text? start raws = [] := by
  induction raws generalizing start with
  | nil => rfl
  | cons raw rest inductionHypothesis =>
      obtain ⟨first, others⟩ := List.forall_mem_cons.mp nothing
      rw [numberedTexts_cons, first, inductionHypothesis others]
      rfl

theorem map_text_numberedTexts (text? : List Char → Option String) (start : Nat)
    (raws : List (List Char)) :
    (numberedTexts text? start raws).map Line.text = raws.filterMap text? := by
  induction raws generalizing start with
  | nil => rfl
  | cons raw rest inductionHypothesis =>
      rw [numberedTexts_cons, List.map_append, inductionHypothesis, List.filterMap_cons]
      cases text? raw <;> rfl

namespace Script

variable {raws : List (List Char)}

theorem macros_ofLines (raws : List (List Char)) :
    (ofLines raws).macros =
      Table.ofList ((raws.filterMap definition?).map fun found => (found.name, found.text)) := by
  have found : (definitions ((raws.map RawLine.ofText).zipIdx 1)).map Prod.fst =
      raws.filterMap definition? := by
    conv => rhs; rw [← List.zipIdx_map_fst 1 raws, List.filterMap_map]
    simp only [definitions, List.zipIdx_map, List.filterMap_map, List.map_filterMap]
    refine List.filterMap_congr fun entry _ => ?_
    simp [definition?, Function.comp_def]
  rw [← found, List.map_map]
  rfl

theorem lines_ofLines (raws : List (List Char)) :
    (ofLines raws).lines = numberedTexts (statementText? (ofLines raws).macros) 1 raws := by
  simp only [ofLines, numberedTexts, List.zipIdx_map, List.filterMap_map]
  refine List.filterMap_congr fun entry _ => ?_
  exact expandLine?_eq _ entry.1 entry.2

theorem texts_ofLines (raws : List (List Char)) :
    (ofLines raws).lines.map Line.text =
      raws.filterMap (statementText? (ofLines raws).macros) := by
  rw [lines_ofLines, map_text_numberedTexts]

end Script

end Chronogram.Source
