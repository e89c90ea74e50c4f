import Chronogram.Proofs.Diagram.Renumbering
import Chronogram.Proofs.Source.RawLines
import Chronogram.Proofs.Table

/-!
Definitions may stand anywhere.

Whether a line is a definition depends on the line alone, and statements are expanded with the
definitions of the whole text. Expansion only asks which text a name stands for, and that is the text
of the last definition of the name. So definitions of different names may be moved past each other and
past all other lines.
-/

namespace Chronogram

open Source Text

namespace Source

theorem replace_congr {macros others : Macros}
    (same : ∀ name, macros.get? name = others.get? name) (word : List Char) :
    macros.replace word = others.replace word := by
  simp only [Macros.replace, same]

/-- Expansion only asks what names stand for. -/
theorem expand_congr {macros others : Macros}
    (same : ∀ name, macros.get? name = others.get? name) (line : List Char) :
    macros.expand line = others.expand line := by
  have reversed : ∀ seen, macros.replaceReversed seen = others.replaceReversed seen := by
    intro seen
    simp only [Macros.replaceReversed, replace_congr same]
  have expanded : ∀ seen, macros.expandFrom seen line = others.expandFrom seen line := by
    induction line with
    | nil => exact reversed
    | cons c rest inductionHypothesis =>
        intro seen
        simp only [Macros.expandFrom, reversed, inductionHypothesis]
  rw [Macros.expand_eq_expandFrom, Macros.expand_eq_expandFrom, expanded]

theorem statementText?_congr {macros others : Macros}
    (same : ∀ name, macros.get? name = others.get? name) (raw : List Char) :
    statementText? macros raw = statementText? others raw := by
  simp only [statementText?, expand_congr same]

def definedNames (raws : List (List Char)) : List String :=
  (raws.filterMap definition?).map Definition.name

def lastDefinition? (raws : List (List Char)) (name : String) : Option Definition :=
  ((raws.filterMap definition?).filter (·.name = name)).getLast?

/-- Whether a raw line is the definition of a macro. -/
def isDefinition (raw : List Char) : Bool :=
  (definition? raw).isSome

variable {raws others : List (List Char)}

namespace Script

theorem get?_macros_ofLines (raws : List (List Char)) (name : String) :
    (ofLines raws).macros.get? name = (lastDefinition? raws name).map Definition.text := by
  rw [macros_ofLines, Table.get?_ofList, List.filter_map, List.getLast?_map, Option.map_map]
  rfl

theorem keys_macros_ofLines (raws : List (List Char)) :
    (ofLines raws).macros.keys = (definedNames raws).eraseDups := by
  rw [macros_ofLines, Table.keys_ofList, List.map_map]
  rfl

end Script

theorem length_definitions_le_one (distinct : (definedNames raws).Nodup) (name : String) :
    ((raws.filterMap definition?).filter (·.name = name)).length ≤ 1 := by
  have counted := List.nodup_iff_count_le_one.mp distinct name
  rw [definedNames, List.count, List.countP_map, List.countP_eq_length_filter] at counted
  simpa only [Function.comp_def, beq_eq_decide] using counted

/-- A name that is defined once has its definition wherever that stands. -/
theorem lastDefinition?_perm (moved : raws.Perm others) (distinct : (definedNames raws).Nodup)
    (name : String) : lastDefinition? raws name = lastDefinition? others name := by
  have permuted := (moved.filterMap definition?).filter (·.name = name)
  have few := length_definitions_le_one distinct name
  unfold lastDefinition?
  cases found : (raws.filterMap definition?).filter (·.name = name) with
  | nil =>
      rw [found] at permuted
      rw [permuted.symm.eq_nil]
  | cons entry rest =>
      rw [found] at permuted few
      obtain rfl : rest = [] := by
        apply List.eq_nil_of_length_eq_zero
        simpa using few
      rw [List.singleton_perm.mp permuted]

/-- The statements of some raw lines do not depend on where the definitions stand. -/
theorem filterMap_statementText?_of_filter (macros : Macros)
    (kept : raws.filter (!isDefinition ·) = others.filter (!isDefinition ·)) :
    raws.filterMap (statementText? macros) = others.filterMap (statementText? macros) := by
  have sifted : ∀ raws : List (List Char), raws.filterMap (statementText? macros) =
      (raws.filter (!isDefinition ·)).filterMap (statementText? macros) := by
    intro raws
    rw [List.filterMap_filter]
    refine List.filterMap_congr fun raw _ => ?_
    cases defines : definition? raw with
    | none => simp [isDefinition, defines]
    | some found =>
        simp [isDefinition, defines, statementText?_eq_none_of_definition? defines]
  rw [sifted, sifted others, kept]

namespace Script

theorem get?_macros_perm (moved : raws.Perm others) (distinct : (definedNames raws).Nodup)
    (name : String) :
    (ofLines others).macros.get? name = (ofLines raws).macros.get? name := by
  rw [get?_macros_ofLines, get?_macros_ofLines, lastDefinition?_perm moved distinct]

theorem texts_perm (moved : raws.Perm others) (distinct : (definedNames raws).Nodup)
    (kept : raws.filter (!isDefinition ·) = others.filter (!isDefinition ·)) :
    (ofLines others).lines.map Line.text = (ofLines raws).lines.map Line.text := by
  rw [texts_ofLines, texts_ofLines, filterMap_statementText?_of_filter _ kept]
  refine List.filterMap_congr fun raw _ => ?_
  exact statementText?_congr (get?_macros_perm moved distinct) raw

theorem lines_of_lastDefinition? (macros : Macros)
    (last : ∀ name, macros.get? name = (lastDefinition? raws name).map Definition.text) :
    (ofLines raws).lines = numberedTexts (statementText? macros) 1 raws := by
  have same : ∀ name, (ofLines raws).macros.get? name = macros.get? name := by
    intro name
    rw [get?_macros_ofLines, last]
  rw [lines_ofLines, funext (statementText?_congr same)]

end Script

end Source

/-- Definitions may stand anywhere. Where no name is defined twice, definitions may be moved past
each other and past all other lines: names stand for the same texts, the statements have the same
texts, and under all settings the same is read or found wrong, up to line numbers. Where a name is
defined more than once, its last definition is used on every line, and the table has it where it was
defined first. -/
theorem definitions_may_stand_anywhere :
    (∀ raws others : List (List Char), raws.Perm others → (definedNames raws).Nodup →
      raws.filter (!isDefinition ·) = others.filter (!isDefinition ·) →
      (Script.ofLines others).lines.map Line.text = (Script.ofLines raws).lines.map Line.text ∧
      (∀ name, (Script.ofLines others).macros.get? name =
        (Script.ofLines raws).macros.get? name) ∧
      ∀ (settings : Settings) (text moved : String), lines text.toList = raws →
        lines moved.toList = others →
        Draft.AgreeUpToNumbers (settings.draft text) (settings.draft moved)) ∧
    (∀ raws : List (List Char),
      (∀ name, (Script.ofLines raws).macros.get? name =
        (lastDefinition? raws name).map Definition.text) ∧
      (∀ macros : Macros,
        (∀ name, macros.get? name = (lastDefinition? raws name).map Definition.text) →
        (Script.ofLines raws).lines = numberedTexts (statementText? macros) 1 raws) ∧
      (Script.ofLines raws).macros.keys = (definedNames raws).eraseDups) := by
  refine ⟨?_, fun raws => ⟨Script.get?_macros_ofLines raws, Script.lines_of_lastDefinition?,
    Script.keys_macros_ofLines raws⟩⟩
  intro raws others moved distinct kept
  have sameTexts := Script.texts_perm moved distinct kept
  refine ⟨sameTexts, Script.get?_macros_perm moved distinct, ?_⟩
  intro settings text other cut cutOther
  unfold Settings.draft
  rw [Script.ofText_eq, Script.ofText_eq, cut, cutOther]
  exact Draft.agreeUpToNumbers_of_texts sameTexts.symm

def definedBelow : String := "title \"see w now\"\nmacro w the macro\nmacro v T0\n"

def definedAbove : String := "macro v T0\nmacro w the macro\ntitle \"see w now\"\n"

theorem macro_above_or_below_its_use :
    (lines definedBelow.toList).Perm (lines definedAbove.toList) ∧
    (definedNames (lines definedBelow.toList)).Nodup ∧
    (lines definedBelow.toList).filter (!isDefinition ·) =
      (lines definedAbove.toList).filter (!isDefinition ·) ∧
    Draft.AgreeUpToNumbers (Settings.standard.draft definedBelow)
      (Settings.standard.draft definedAbove) ∧
    ∃ draft, Settings.standard.draft definedBelow = .ok draft ∧
      draft.diagram.title = "see the macro now" := by
  have moved : (lines definedBelow.toList).Perm (lines definedAbove.toList) := by decide +kernel
  have distinct : (definedNames (lines definedBelow.toList)).Nodup := by decide +kernel
  have kept : (lines definedBelow.toList).filter (!isDefinition ·) =
      (lines definedAbove.toList).filter (!isDefinition ·) := by
    decide +kernel
  have agree := (definitions_may_stand_anywhere.1 _ _ moved distinct kept).2.2
    Settings.standard definedBelow definedAbove rfl rfl
  refine ⟨moved, distinct, kept, agree, ?_⟩
  exact ⟨_, rfl, rfl⟩

end Chronogram
