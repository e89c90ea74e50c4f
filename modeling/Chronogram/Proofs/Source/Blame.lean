import Chronogram.Proofs.Diagram.Strictness
import Chronogram.Proofs.FirstFault
import Chronogram.Proofs.Source.DefinitionOrder
import Chronogram.Proofs.Source.Silence
import Chronogram.Proofs.Text.Lines

/-!
The line that is blamed.

Reading stops at the first raw line whose statement cannot be taken in, and the fault carries the
number of that line. The lines in front of it alone are read without a fault, and from the lines
behind it only the definitions matter.
-/

namespace Chronogram

open Source Text

namespace Draft

variable {mode : Mode} {draft : Draft} {line : Line} {fault : LineFault}

theorem line_of_step_error (stopped : draft.step mode line = .error fault) :
    fault.line = line.number := by
  unfold step at stopped
  cases found : Statement.read? line.text with
  | some statement =>
      cases applied : draft.diagram.apply statement with
      | ok diagram => simp [found, applied] at stopped
      | error wrong =>
          simp only [found, applied, Except.error.injEq] at stopped
          rw [← stopped]
  | none =>
      cases mode with
      | lenient => simp [found] at stopped
      | strict =>
          simp only [found, Except.error.injEq] at stopped
          rw [← stopped]

theorem steps_append (mode : Mode) (draft : Draft) (first second : List Line) :
    steps mode draft (first ++ second) =
      steps mode draft first >>= fun reached => steps mode reached second := by
  induction first generalizing draft with
  | nil => rfl
  | cons line rest inductionHypothesis =>
      rw [List.cons_append]
      cases taken : draft.step mode line with
      | error wrong =>
          rw [steps_cons_of_error taken, steps_cons_of_error taken]
          rfl
      | ok answer =>
          obtain ⟨next, kind⟩ := answer
          rw [steps_cons_of_ok taken, steps_cons_of_ok taken, inductionHypothesis]

end Draft

namespace Source

/-- A raw line, emptied if it holds a statement. -/
def withoutStatement (raw : List Char) : List Char :=
  match RawLine.ofText raw with
  | .statement _ => []
  | .nothing | .definition _ => raw

theorem definition?_nil : definition? [] = none := rfl

theorem definition?_withoutStatement (raw : List Char) :
    definition? (withoutStatement raw) = definition? raw := by
  unfold withoutStatement
  cases kind : RawLine.ofText raw with
  | nothing | definition => rfl
  | statement text =>
      rw [definition?_nil, definition?, kind]
      rfl

theorem definitions_withoutStatement (raws : List (List Char)) :
    (raws.map withoutStatement).filterMap definition? = raws.filterMap definition? := by
  rw [List.filterMap_map]
  exact List.filterMap_congr fun raw _ => definition?_withoutStatement raw

theorem statementText?_withoutStatement (macros : Macros) (raws : List (List Char)) :
    ∀ raw ∈ raws.map withoutStatement, statementText? macros raw = none := by
  intro raw stands
  obtain ⟨full, -, rfl⟩ := List.mem_map.mp stands
  unfold withoutStatement
  cases kind : RawLine.ofText full with
  | nothing | definition => simp [statementText?, kind, RawLine.statement?]
  | statement text => rfl

theorem feedless_withoutStatement {raws : List (List Char)} (feedless : ∀ raw ∈ raws, '\n' ∉ raw) :
    ∀ raw ∈ raws.map withoutStatement, '\n' ∉ raw := by
  intro raw stands
  obtain ⟨full, among, rfl⟩ := List.mem_map.mp stands
  unfold withoutStatement
  split
  · simp
  · exact feedless full among
  · exact feedless full among

end Source

namespace Settings

variable {settings : Settings} {macros : Macros} {raws front back : List (List Char)}
  {raw : List Char} {fault : LineFault}

/-- What some raw lines come to under macros that are known already. -/
def draftUnder (settings : Settings) (macros : Macros) (raws : List (List Char)) :
    Except LineFault Draft :=
  Draft.steps settings.mode (Draft.blank settings.site)
    (numberedTexts (statementText? macros) 1 raws)

theorem draft_eq_draftUnder (settings : Settings) (text : String) :
    settings.draft text =
      settings.draftUnder (Script.ofLines (lines text.toList)).macros (lines text.toList) := by
  rw [draft, Script.ofText_eq, Script.lines_ofLines]
  rfl

theorem draft_eq_draftUnder_of_definitions {text other : String}
    (same : (lines other.toList).filterMap definition? =
      (lines text.toList).filterMap definition?) :
    settings.draft other =
      settings.draftUnder (Script.ofLines (lines text.toList)).macros (lines other.toList) := by
  rw [draft_eq_draftUnder, Script.macros_ofLines, same, ← Script.macros_ofLines]

/-- The lines in front of a raw line are read, and its statement cannot be taken in. -/
def StopsBehind (settings : Settings) (macros : Macros) (front : List (List Char))
    (raw : List Char) (fault : LineFault) : Prop :=
  ∃ text reached, statementText? macros raw = some text ∧
    settings.draftUnder macros front = .ok reached ∧
    reached.step settings.mode ⟨front.length + 1, text⟩ = .error fault

theorem StopsBehind.line (stops : settings.StopsBehind macros front raw fault) :
    fault.line = front.length + 1 := by
  obtain ⟨text, reached, -, -, stopped⟩ := stops
  exact Draft.line_of_step_error stopped

theorem StopsBehind.not_isSilent (stops : settings.StopsBehind macros front raw fault) :
    ¬IsSilent raw := by
  obtain ⟨text, -, written, -, -⟩ := stops
  intro silent
  rw [statementText?_of_isSilent silent macros] at written
  cases written

theorem StopsBehind.isDefinition_eq (stops : settings.StopsBehind macros front raw fault) :
    isDefinition raw = false := by
  obtain ⟨text, -, written, -, -⟩ := stops
  cases defines : definition? raw with
  | none => simp [isDefinition, defines]
  | some found =>
      rw [statementText?_eq_none_of_definition? defines macros] at written
      cases written

/-- What raw lines come to is what the later ones come to behind the earlier ones. -/
theorem draftUnder_append (settings : Settings) (macros : Macros) (front back : List (List Char)) :
    settings.draftUnder macros (front ++ back) =
      settings.draftUnder macros front >>= fun reached =>
        Draft.steps settings.mode reached
          (numberedTexts (statementText? macros) (front.length + 1) back) := by
  rw [draftUnder, numberedTexts_append, Draft.steps_append, Nat.add_comm 1]
  rfl

theorem draftUnder_append_of_none (nothing : ∀ raw ∈ back, statementText? macros raw = none) :
    settings.draftUnder macros (front ++ back) = settings.draftUnder macros front := by
  rw [draftUnder_append, numberedTexts_eq_nil nothing]
  cases settings.draftUnder macros front <;> rfl

/-- Reading stops at a line whatever stands behind it. -/
theorem StopsBehind.draftUnder_eq (stops : settings.StopsBehind macros front raw fault)
    (back : List (List Char)) :
    settings.draftUnder macros (front ++ raw :: back) = .error fault := by
  obtain ⟨text, reached, written, read, stopped⟩ := stops
  rw [draftUnder_append, read, numberedTexts_cons, written]
  exact Draft.steps_cons_of_error stopped

/-- If raw lines come to a fault, they do so at one of them. -/
theorem exists_stopsBehind (failed : settings.draftUnder macros raws = .error fault) :
    ∃ front raw back, raws = front ++ raw :: back ∧
      settings.StopsBehind macros front raw fault := by
  induction raws using List.reverseRecOn with
  | nil => cases failed
  | append_singleton raws last inductionHypothesis =>
      rw [draftUnder_append] at failed
      cases read : settings.draftUnder macros raws with
      | error earlier =>
          obtain rfl : earlier = fault := by
            rw [read] at failed
            exact Except.error.inj failed
          obtain ⟨front, raw, back, split, stops⟩ := inductionHypothesis read
          refine ⟨front, raw, back ++ [last], ?_, stops⟩
          rw [split, List.append_assoc, List.cons_append]
      | ok reached =>
          rw [read, numberedTexts_cons] at failed
          cases written : statementText? macros last with
          | none =>
              rw [written] at failed
              cases failed
          | some text =>
              refine ⟨raws, last, [], rfl, text, reached, written, read, ?_⟩
              rw [written] at failed
              cases taken : reached.step settings.mode ⟨raws.length + 1, text⟩ with
              | error wrong =>
                  have same := (Draft.steps_cons_of_error taken).symm.trans failed
                  rw [Except.error.inj same]
              | ok answer => cases (Draft.steps_cons_of_ok taken).symm.trans failed

end Settings

/-- The first faulty line is blamed. A fault carries the number of a raw line that holds a statement.
Without the statements from that line on, the text is read; with any other lines behind that line
that define the same macros, it comes to the same fault. -/
theorem first_faulty_line_is_blamed (settings : Settings) (text : String) (fault : LineFault)
    (failed : settings.draft text = .error fault) :
    ∃ before raw after, lines text.toList = before ++ raw :: after ∧
      fault.line = before.length + 1 ∧ ¬IsSilent raw ∧ isDefinition raw = false ∧
      (∃ cleared : String,
        lines cleared.toList = before ++ (raw :: after).map withoutStatement) ∧
      (∀ cleared : String,
        lines cleared.toList = before ++ (raw :: after).map withoutStatement →
        ∃ draft, settings.draft cleared = .ok draft) ∧
      ∀ (other : String) (others : List (List Char)),
        others.filterMap definition? = after.filterMap definition? →
        lines other.toList = before ++ raw :: others → settings.draft other = .error fault := by
  rw [Settings.draft_eq_draftUnder] at failed
  obtain ⟨before, raw, after, split, stops⟩ := Settings.exists_stopsBehind failed
  refine ⟨before, raw, after, split, stops.line, stops.not_isSilent, stops.isDefinition_eq,
    ?_, ?_, ?_⟩
  · apply exists_text_of_lines
    have feedless : ∀ line ∈ before ++ raw :: after, '\n' ∉ line := fun line stands =>
      feedless_of_mem_lines (split ▸ stands)
    rw [List.forall_mem_append] at feedless ⊢
    exact ⟨feedless.1, feedless_withoutStatement feedless.2⟩
  · intro cleared cut
    have same : (lines cleared.toList).filterMap definition? =
        (lines text.toList).filterMap definition? := by
      rw [cut, split, List.filterMap_append, List.filterMap_append, definitions_withoutStatement]
    obtain ⟨_, reached, -, read, -⟩ := stops
    refine ⟨reached, ?_⟩
    rw [Settings.draft_eq_draftUnder_of_definitions same, cut,
      Settings.draftUnder_append_of_none (statementText?_withoutStatement _ _), read]
  · intro other others sameDefinitions cut
    have same : (lines other.toList).filterMap definition? =
        (lines text.toList).filterMap definition? := by
      rw [cut, split, List.filterMap_append, List.filterMap_append, List.filterMap_cons,
        List.filterMap_cons, sameDefinitions]
    rw [Settings.draft_eq_draftUnder_of_definitions same, cut]
    exact stops.draftUnder_eq others

/-- A text whose third line observes a lifeline that is not declared. -/
def strayText : String :=
  "lifeline \"a\"\n # note\nT0 \"b\" m\nT1 \"a\" m\nmacro m 3\n"

theorem strayText_blames_third_line :
    Settings.standard.draft strayText = .error ⟨3, .unknownLifeline "b"⟩ ∧
    (∃ draft, Settings.standard.draft "lifeline \"a\"\n # note\n\n\nmacro m 3\n" = .ok draft) ∧
    Settings.standard.draft "lifeline \"a\"\n # note\nT0 \"b\" m\nmacro m 3\ntitle \"b\nwhat" =
      .error ⟨3, .unknownLifeline "b"⟩ := by
  have failed : Settings.standard.draft strayText = .error ⟨3, .unknownLifeline "b"⟩ := rfl
  obtain ⟨before, raw, after, split, number, -, -, -, cleared, replaced⟩ :=
    first_faulty_line_is_blamed Settings.standard strayText _ failed
  have two : before.length = 2 := (Nat.succ.inj number).symm
  have known : ["lifeline \"a\"".toList, " # note".toList] ++
      ("T0 \"b\" m".toList :: ["T1 \"a\" m".toList, "macro m 3".toList]) =
        before ++ raw :: after := split
  obtain ⟨rfl, behind⟩ := List.append_inj known two.symm
  obtain ⟨rfl, rfl⟩ := List.cons.inj behind
  have others := replaced "lifeline \"a\"\n # note\nT0 \"b\" m\nmacro m 3\ntitle \"b\nwhat"
    ["macro m 3".toList, "title \"b".toList, "what".toList] rfl rfl
  exact ⟨failed, cleared _ rfl, others⟩

end Chronogram
