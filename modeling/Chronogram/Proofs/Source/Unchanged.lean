import Chronogram.Proofs.Source.Solid
import Chronogram.Proofs.Text.Lines
import Chronogram.Proofs.Text.Trim
import Mathlib.Data.List.Basic

/-!
Preprocessing leaves written statements alone.

The text of some statements, each on a line of its own, is taken apart into exactly these lines:
none is a comment or the definition of a macro, and without macros nothing is replaced.
-/

namespace Chronogram

open Text Source

namespace Source

theorem expand_empty (line : List Char) : Macros.expand Table.empty line = line := rfl

end Source

namespace Statement

variable {statement : Statement}

/-- The line of a statement starts with a letter that starts no definition. -/
theorem write_starts (statement : Statement) :
    ∃ c rest, statement.write = c :: rest ∧ isBlank c = false ∧ c ≠ '#' ∧ c ≠ 'm' := by
  cases statement with
  | config | title | lifeline | style | state | span =>
      exact ⟨_, _, rfl, by decide, by decide, by decide⟩
  | arrow | tick => exact ⟨_, _, rfl, by decide, by decide, by decide⟩

theorem trim_write (writable : statement.Writable) : trim statement.write = statement.write := by
  obtain ⟨c, rest, starts, notBlank, -, -⟩ := write_starts statement
  exact trim_eq_self (by simpa [starts] using notBlank) (Solid.write writable).ends

theorem ofText_write (writable : statement.Writable) :
    RawLine.ofText statement.write = .statement statement.write := by
  obtain ⟨c, rest, starts, notBlank, notSign, notDefinition⟩ := write_starts statement
  have noComment : isCommentLine statement.write = false := by
    have trimmed : trimStart statement.write = statement.write :=
      trimStart_eq_self (by simpa [starts] using notBlank)
    rw [isCommentLine, trimmed, starts]
    simpa using notSign
  have noDefinition : Definition.read? statement.write = none := by
    have other : definitionKeyword.isPrefixOf statement.write = false := by
      simp [definitionKeyword, starts, List.isPrefixOf, Ne.symm notDefinition]
    simp [Definition.read?, other]
  have stripped := stripComment_of_quiet (Solid.write writable).quiet
  have nonempty : statement.write.isEmpty = false := by simp [starts]
  simp [RawLine.ofText, noComment, stripped, trim_write writable, nonempty, noDefinition]

theorem expandLine?_write (writable : statement.Writable) (number : Nat) :
    expandLine? Table.empty (.statement statement.write) number =
      some ⟨number, String.ofList statement.write⟩ := by
  obtain ⟨c, rest, starts, -⟩ := write_starts statement
  have nonempty : statement.write ≠ [] := by simp [starts]
  simp [expandLine?, RawLine.statement?, expand_empty, trim_write writable, nonempty]

end Statement

namespace Source

def Script.textOf (statements : List Statement) : String :=
  String.ofList (statements.flatMap fun statement => statement.write ++ ['\n'])

theorem numberedLines_textOf {statements : List Statement}
    (writable : ∀ statement ∈ statements, statement.Writable) :
    numberedLines (Script.textOf statements) =
      (statements.zipIdx 1).map fun (statement, number) =>
        (.statement statement.write, number) := by
  have whole : ∀ text ∈ statements.map Statement.write,
      '\n' ∉ text ∧ ∀ c ∈ text.getLast?, c ≠ '\r' := by
    intro text membership
    obtain ⟨statement, stated, rfl⟩ := List.mem_map.mp membership
    have solid := Solid.write (writable statement stated)
    refine ⟨solid.feedless, ?_⟩
    rintro c last rfl
    exact absurd (solid.ends _ last) (by decide)
  have cut : lines (Script.textOf statements).toList = statements.map Statement.write := by
    rw [Script.textOf, String.toList_ofList, ← lines_flatMap whole, List.flatMap_map]
  have told : (statements.map Statement.write).map RawLine.ofText =
      statements.map fun statement => .statement statement.write := by
    rw [List.map_map]
    exact List.map_congr_left fun statement membership =>
      Statement.ofText_write (writable statement membership)
  rw [numberedLines, cut, told, List.zipIdx_map]
  rfl

/-- The statements of a text come out as they have been written, numbered in order. -/
theorem lines_ofText_textOf {statements : List Statement}
    (writable : ∀ statement ∈ statements, statement.Writable) :
    (Script.ofText (Script.textOf statements)).lines =
      (statements.zipIdx 1).map fun (statement, number) =>
        ⟨number, String.ofList statement.write⟩ := by
  have undefined : definitions (numberedLines (Script.textOf statements)) = [] := by
    rw [numberedLines_textOf writable, definitions, List.filterMap_map]
    refine List.filterMap_eq_nil_iff.mpr fun entry _ => ?_
    rfl
  have noMacros : Macros.ofDefinitions [] = Table.empty := rfl
  simp only [Script.ofText]
  rw [undefined, noMacros, numberedLines_textOf writable, List.filterMap_map,
    ← List.filterMap_eq_map]
  refine List.filterMap_congr fun entry membership => ?_
  exact Statement.expandLine?_write (writable entry.1 (List.fst_mem_of_mem_zipIdx membership))
    entry.2

end Source

end Chronogram
