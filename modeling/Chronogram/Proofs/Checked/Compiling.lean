import Chronogram.Compiler
import Chronogram.Proofs.Checked.Building
import Chronogram.Proofs.Checked.Layout

/-!
Compiling never runs into a trap.

All stages are put together from checked steps. The limits that statements keep to bound the dense
rows, and the bound on the rows is what the steps of layout need. So a text is always compiled to a
document or to a fault of reading or of layout, whatever the settings are and however text is
measured.
-/

namespace Chronogram

open Guarded Source Text

def Settings.svgWith (settings : Settings) (measurer : Measurer Float) (text : String) :
    Except CompileFault String := do
  let draft ← (settings.draft text).mapError .source
  let page ← (Page.layout measurer draft.diagram.timeline).mapError .layout
  .ok (settings.writePage page)

theorem Settings.svgWith_measurer (settings : Settings) (text : String) :
    settings.svgWith settings.metrics.measurer text = settings.svg text := by
  unfold svgWith svg Settings.page layoutTimeline
  cases settings.draft text with
  | error fault => rfl
  | ok draft =>
      simp only [bind, Except.bind, Except.mapError]
      cases Page.layout settings.metrics.measurer draft.diagram.timeline <;> rfl

def Checked.svg (settings : Settings) (measurer : Measurer Float) (text : String) :
    Guarded CompileFault String := do
  let script ← take (script text)
  let draft ← (steps settings.mode (Draft.blank settings.site) script.lines).renameFault .source
  let timeline ← take (timeline draft.diagram)
  let page ← (page measurer timeline).renameFault .layout
  return settings.writePage page

namespace Diagram

/-- A diagram that is well built has few enough rows to number them. -/
theorem WellBuilt.tickCount_le {diagram : Diagram} (wellBuilt : diagram.WellBuilt) :
    diagram.timeline.tickCount ≤ 100001 := by
  have counted : diagram.timeline.tickCount = diagram.timeCount := by
    change diagram.rows.length = diagram.timeCount
    rw [rows_eq, List.length_map, List.length_range]
  rw [counted]
  exact wellBuilt.timeCount_le

end Diagram

theorem Checked.yields_svg (settings : Settings) (measurer : Measurer Float) (text : String) :
    Yields (svg settings measurer text) (settings.svgWith measurer text) := by
  refine Yields.afterStep (script_eq text) ?_
  refine ((yields_steps settings.mode _ _).renameFault _).bind fun draft read => ?_
  have parsed : settings.draft text = .ok draft := mapError_eq_ok_iff.mp read
  have wellBuilt : draft.diagram.WellBuilt := settings.wellBuilt_draft parsed
  refine Yields.afterStep (timeline_eq wellBuilt) ?_
  -- From here on the dense rows are there, and their number bounds all counting.
  have few : 100001 < Numeral.wordBound := by decide
  have fits := Nat.lt_of_le_of_lt wellBuilt.tickCount_le few
  refine ((yields_page measurer fits).renameFault _).bind fun page _ => ?_
  exact yields_pure _

/-- The answer is a document, a fault of reading or a fault of layout. -/
def DocumentOrFault (answer : Except CompileFault String) : Prop :=
  (∃ document, answer = .ok document) ∨ (∃ fault, answer = .error (.source fault)) ∨
    ∃ fault, answer = .error (.layout fault)

theorem Settings.documentOrFault_svgWith (settings : Settings) (measurer : Measurer Float)
    (text : String) : DocumentOrFault (settings.svgWith measurer text) := by
  unfold svgWith
  cases settings.draft text with
  | error fault => exact .inr (.inl ⟨fault, rfl⟩)
  | ok draft =>
      simp only [bind, Except.bind, Except.mapError]
      cases Page.layout measurer draft.diagram.timeline with
      | error fault => exact .inr (.inr ⟨fault, rfl⟩)
      | ok page => exact .inl ⟨_, rfl⟩

/-- Compiling never runs into a trap. Whatever the text, the settings, the id of the root element
and the way to measure text are, all checked steps can be taken, and they come to the same document
or fault as compiling without checks. No field is read that a split of its line leaves out, there are
at most 100001 dense rows, and lines are never counted beyond the number of characters. -/
theorem compiling_never_traps (settings : Settings) (measurer : Measurer Float) (text : String) :
    (Checked.svg settings measurer text).run = .ok (settings.svgWith measurer text) ∧
    settings.svgWith settings.metrics.measurer text = settings.svg text ∧
    DocumentOrFault (settings.svgWith measurer text) ∧
    Checked.FieldsTakePart ∧
    (∀ draft, settings.draft text = .ok draft → draft.diagram.rows.length ≤ 100001) ∧
    (∀ entry ∈ numberedLines text, entry.2 ≤ text.length) := by
  refine ⟨Checked.yields_svg settings measurer text, settings.svgWith_measurer text,
    settings.documentOrFault_svgWith measurer text, Checked.fieldsTakePart, ?_, ?_⟩
  · intro draft parsed
    exact (settings.wellBuilt_draft parsed).tickCount_le
  · intro entry membership
    exact Checked.number_le_of_mem membership

end Chronogram
