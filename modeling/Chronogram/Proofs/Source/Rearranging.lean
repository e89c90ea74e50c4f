import Chronogram.Proofs.Diagram.Exchange
import Chronogram.Proofs.Diagram.Renumbering
import Chronogram.Proofs.Grouping
import Chronogram.Proofs.Source.RawLines

/-!
Settings, titles, spans and arrows may stand anywhere.

Statements of these kinds are independent of every statement of another kind. So a text that is read
may have them moved past all other lines, as long as statements of one of these kinds keep their
order among each other, and it is still read, as the same diagram.
-/

namespace Chronogram

open Source Text

/-- Whether statements of a kind are independent of all statements of other kinds. -/
def StatementKind.isLoose : StatementKind → Bool
  | .config | .title | .span | .arrow => true
  | .lifeline | .style | .state | .tick => false

/-- The group within which a line keeps its place: a loose kind, or all lines of other kinds and of
none. -/
def StatementKind.loose? (kind? : Option StatementKind) : Option StatementKind :=
  kind?.filter isLoose

theorem StatementKind.independent_of_loose?_ne {first second : Option StatementKind}
    (differ : loose? first ≠ loose? second) : Independent first second := by
  revert differ
  rcases first with _ | first <;> rcases second with _ | second
  · decide
  · cases second <;> decide
  · cases first <;> decide
  · cases first <;> cases second <;> decide

namespace Draft

variable {mode : Mode} {draft final : Draft}

theorem steps_of_agreeWithin {lines others : List Line}
    (agree : AgreeWithin (fun line => StatementKind.loose? line.kind?) lines others)
    (taken : steps mode draft lines = .ok final) : steps mode draft others = .ok final := by
  induction others generalizing draft lines with
  | nil =>
      obtain rfl := agree.eq_nil
      exact taken
  | cons other rest inductionHypothesis =>
      obtain ⟨before, after, rfl, differ, agreeRest⟩ := agree.exists_split
      have moved := steps_moveFront
        (fun passed stands => StatementKind.independent_of_loose?_ne (differ passed stands)) taken
      obtain ⟨edit, decided, takenRest⟩ := steps_cons_eq_ok_iff.mp moved
      exact steps_cons_eq_ok_iff.mpr ⟨edit, decided, inductionHypothesis agreeRest takenRest⟩

end Draft

namespace Source

/-- The group within which a raw line keeps its place under some macros. -/
def looseKind? (macros : Macros) (raw : List Char) : Option StatementKind :=
  StatementKind.loose? (statementKind? macros raw)

variable {raws others : List (List Char)}

namespace Script

/-- Definitions are not moved, so the macros are the same. -/
theorem macros_of_agreeWithin {macros : Macros} (agree : AgreeWithin (looseKind? macros) raws others) :
    (ofLines others).macros = (ofLines raws).macros := by
  have sameDefinitions : raws.filterMap definition? = others.filterMap definition? := by
    refine agree.filterMap_eq none fun raw found defines => ?_
    simp [looseKind?, statementKind?, statementText?_eq_none_of_definition? defines,
      StatementKind.loose?]
  rw [macros_ofLines, macros_ofLines, sameDefinitions]

/-- Without their numbers, the statements of both texts agree within groups. -/
theorem lines_of_agreeWithin (agree : AgreeWithin (looseKind? (ofLines raws).macros) raws others) :
    AgreeWithin (fun line => StatementKind.loose? line.kind?)
      ((ofLines raws).lines.map (Line.renumber fun _ => 0))
      ((ofLines others).lines.map (Line.renumber fun _ => 0)) := by
  rw [Draft.map_renumber_zero, Draft.map_renumber_zero, texts_ofLines, texts_ofLines,
    macros_of_agreeWithin agree, List.map_filterMap, List.map_filterMap]
  refine agree.filterMap fun raw line written => ?_
  obtain ⟨text, found, rfl⟩ := Option.map_eq_some_iff.mp written
  simp [looseKind?, statementKind?, found, Line.kind?]

end Script

end Source

theorem Settings.draft_of_agreeWithin (settings : Settings) {text other : String} {draft : Draft}
    (agree : AgreeWithin (looseKind? (Script.ofText text).macros)
      (lines text.toList) (lines other.toList))
    (parsed : settings.draft text = .ok draft) :
    ∃ moved, settings.draft other = .ok moved ∧ moved.diagram = draft.diagram ∧
      moved.warnings.map Warning.text = draft.warnings.map Warning.text := by
  have unnumbered : Draft.steps settings.mode (Draft.blank settings.site)
      ((Script.ofText text).lines.map (Line.renumber fun _ => 0)) =
      .ok (draft.renumber fun _ => 0) := by
    rw [← Draft.renumber_blank (fun _ => 0) settings.site, Draft.steps_renumber]
    exact congrArg (Draft.renumberResult fun _ => 0) parsed
  have rearranged := Draft.steps_of_agreeWithin (Script.lines_of_agreeWithin agree) unnumbered
  rw [← Draft.renumber_blank (fun _ => 0) settings.site, Draft.steps_renumber] at rearranged
  have agreed : Draft.AgreeUpToNumbers (.ok draft) (settings.draft other) :=
    Draft.agreeUpToNumbers_of_renumber rearranged.symm
  cases read : settings.draft other with
  | error fault =>
      rw [read] at agreed
      exact agreed.elim
  | ok moved =>
      rw [read] at agreed
      exact ⟨moved, rfl, agreed.1.symm, agreed.2.symm⟩

/-- Independent lines may be exchanged at every draft, whether they are at fault or not. So a text
that is read may have settings, titles, spans and arrows moved past lines of all other kinds, and the
same diagram is read. -/
theorem independent_lines_commute :
    (∀ (mode : Mode) (draft : Draft) (first second : Line),
      Independent first.kind? second.kind? → Builder.Exchangeable mode draft first second) ∧
    (∀ (settings : Settings) (text other : String) (draft : Draft),
      AgreeWithin (looseKind? (Script.ofText text).macros)
        (lines text.toList) (lines other.toList) →
      settings.draft text = .ok draft →
      ∃ moved, settings.draft other = .ok moved ∧ moved.diagram = draft.diagram ∧
        moved.warnings.map Warning.text = draft.warnings.map Warning.text) := by
  refine ⟨fun mode draft first second independent => ?_, ?_⟩
  · exact Builder.exchangeable_of_independent independent
  · intro settings text other draft agree parsed
    exact settings.draft_of_agreeWithin agree parsed

def titleBelow : String := "lifeline \"a\"\nT0 \"a\" 1\nconfig scale 2\ntitle \"late\"\n"

def titleAbove : String := "title \"late\"\nlifeline \"a\"\nconfig scale 2\nT0 \"a\" 1\n"

/-- A title and an unknown line may be exchanged, and a title and a setting may move up. -/
theorem title_above_or_below :
    Independent (Line.mk 1 "title \"late\"").kind? (Line.mk 2 "what").kind? ∧
    Builder.Exchangeable .lenient (Draft.blank Config.standard)
      ⟨1, "title \"late\""⟩ ⟨2, "what"⟩ ∧
    AgreeWithin (looseKind? (Script.ofText titleBelow).macros)
      (lines titleBelow.toList) (lines titleAbove.toList) ∧
    ∃ draft moved, Settings.standard.draft titleBelow = .ok draft ∧
      Settings.standard.draft titleAbove = .ok moved ∧
      draft.diagram.title = "late" ∧ moved.diagram = draft.diagram := by
  have independent : Independent (Line.mk 1 "title \"late\"").kind? (Line.mk 2 "what").kind? := by
    decide
  have agree : AgreeWithin (looseKind? (Script.ofText titleBelow).macros)
      (lines titleBelow.toList) (lines titleAbove.toList) := by
    decide +kernel
  obtain ⟨commute, rearrange⟩ := independent_lines_commute
  refine ⟨independent, commute _ _ _ _ independent, agree, ?_⟩
  have written : ∃ draft, Settings.standard.draft titleBelow = .ok draft ∧
      draft.diagram.title = "late" :=
    ⟨_, rfl, rfl⟩
  obtain ⟨draft, parsed, title⟩ := written
  obtain ⟨moved, read, same, -⟩ := rearrange Settings.standard _ _ draft agree parsed
  exact ⟨draft, moved, parsed, read, title, same⟩

end Chronogram
