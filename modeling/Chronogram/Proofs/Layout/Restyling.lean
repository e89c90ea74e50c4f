import Chronogram.Proofs.Diagram.Edit
import Chronogram.Proofs.Layout.Dependence
import Chronogram.Proofs.Layout.Staircase
import Chronogram.Proofs.Pointwise
import Chronogram.Proofs.Timeline.ForwardFill

/-!
A change of style.

A sliced lifeline is drawn like a normal one, with slices behind its staircase. So when a lifeline
changes from one of these styles to the other, its box keeps its place and its height, and nothing
that refers to the box can tell the difference.
-/

namespace Chronogram

variable {α : Type} {style : LifelineStyle}

def Diagram.restyled (diagram : Diagram) (name : String) (style : LifelineStyle) : Diagram :=
  diagram.modifyLifeline name (·.restyle style)

namespace Timeline

def restyled (timeline : Timeline) (name : String) (style : LifelineStyle) : Timeline :=
  { timeline with lifelines := timeline.lifelines.modify name (·.restyle style) }

theorem timeline_restyled (diagram : Diagram) (name : String) (style : LifelineStyle) :
    (diagram.restyled name style).timeline = diagram.timeline.restyled name style := by
  have sameRows : (diagram.restyled name style).rows = diagram.rows := by
    rw [Diagram.rows_eq, Diagram.rows_eq]
    refine List.map_congr_left fun time _ => ?_
    unfold Diagram.rowAt Diagram.restyled Diagram.modifyLifeline Table.modify
    rw [Table.mapValues_mapValues]
    rfl
  unfold Diagram.timeline
  rw [sameRows]
  rfl

variable (timeline : Timeline) (name : String) (style : LifelineStyle)

theorem keys_restyled :
    (timeline.restyled name style).lifelines.keys = timeline.lifelines.keys :=
  Table.keys_modify name _ timeline.lifelines

theorem column_restyled : (timeline.restyled name style).column = timeline.column := by
  funext other
  unfold column column? Table.contains
  rw [keys_restyled]
  rfl

theorem legendTicks_restyled :
    (timeline.restyled name style).legendTicks = timeline.legendTicks := by
  unfold legendTicks firstColumn
  rw [keys_restyled, column_restyled]
  rfl

end Timeline

namespace LifelineBox

variable [Scalar α]

/-- The styles with rows differ in the slices that they add to the box. -/
theorem layout_of_rows {lifeline : Lifeline} (rows : lifeline.style ≠ .simplified)
    (column : List Snapshot) (grid : Grid α) (top labelX : α) :
    ∃ shades separators, layout lifeline column grid top labelX =
      match missingState? lifeline.states column with
      | some (tick, state) => .error (.unknownState lifeline.name tick state)
      | none => .ok { (frame lifeline grid top labelX).withStaircase grid lifeline.states column with
          shades, separators } := by
  unfold layout
  cases style : lifeline.style with
  | simplified => exact absurd style rows
  | normal => exact ⟨_, _, rfl⟩
  | slice => exact ⟨_, _, rfl⟩

theorem frame_restyle {lifeline : Lifeline} (rows : lifeline.style ≠ .simplified)
    (rowsAfter : style ≠ .simplified) (grid : Grid α) (top labelX : α) :
    frame (lifeline.restyle style) grid top labelX =
      { frame lifeline grid top labelX with style } := by
  obtain ⟨name, before, states⟩ := lifeline
  cases before with
  | simplified => exact absurd rfl rows
  | normal | slice =>
      cases style with
      | simplified => exact absurd rfl rowsAfter
      | normal | slice => rfl

theorem layout_restyle {lifeline : Lifeline} (rows : lifeline.style ≠ .simplified)
    (rowsAfter : style ≠ .simplified) (column : List Snapshot) (grid : Grid α) (top labelX : α) :
    SameOutcome (fun before after => ∃ shades separators,
        after = { before with style, shades, separators })
      (layout lifeline column grid top labelX)
      (layout (lifeline.restyle style) column grid top labelX) := by
  have rowsThere : (lifeline.restyle style).style ≠ .simplified := rowsAfter
  obtain ⟨_, _, drawn⟩ := layout_of_rows rows column grid top labelX
  obtain ⟨shades, separators, redrawn⟩ := layout_of_rows rowsThere column grid top labelX
  rw [drawn, redrawn, frame_restyle rows rowsAfter]
  cases missing : missingState? lifeline.states column with
  | some found => simpa only [Lifeline.restyle, missing] using .failed _
  | none =>
      simp only [Lifeline.restyle, missing]
      exact .done ⟨shades, separators, rfl⟩

end LifelineBox

namespace Page

variable [Scalar α]

theorem stack_modify {timeline : Timeline} {lifelines : List Lifeline} {index : Nat}
    {lifeline : Lifeline} (here : lifelines[index]? = some lifeline)
    (rows : lifeline.style ≠ .simplified) (rowsAfter : style ≠ .simplified) (grid : Grid α)
    (top : α) :
    SameOutcome (fun before after => ∃ shades separators, after =
        (before.1.modify index fun box => { box with style, shades, separators }, before.2))
      (stack timeline grid top lifelines)
      (stack timeline grid top (lifelines.modify index (·.restyle style))) := by
  induction lifelines generalizing index top with
  | nil => simp at here
  | cons first rest inductionHypothesis =>
      cases index with
      | zero =>
          obtain rfl := Option.some.inj here
          rw [List.modify_zero_cons]
          unfold stack
          refine (LifelineBox.layout_restyle rows rowsAfter _ grid top (px leftPad)).bind ?_
          rintro box _ ⟨shades, separators, rfl⟩
          refine .bind_eq rfl ?_
          rintro ⟨boxes, next⟩
          exact .done ⟨shades, separators, rfl⟩
      | succ index =>
          rw [List.modify_succ_cons]
          unfold stack
          refine .bind_eq rfl fun box => ?_
          refine (inductionHypothesis here _).bind ?_
          rintro ⟨boxes, next⟩ _ ⟨shades, separators, rfl⟩
          exact .done ⟨shades, separators, rfl⟩

variable {timeline : Timeline} {name : String} {lifeline : Lifeline}
  (declared : timeline.lifelines.get? name = some lifeline)
  (rows : lifeline.style ≠ .simplified) (rowsAfter : style ≠ .simplified)

include declared rows rowsAfter

theorem stack_restyled (grid : Grid α) (top : α) :
    SameOutcome (fun before after => ∃ shades separators, after =
        (before.1.modify (timeline.lifelines.keys.idxOf name) fun box =>
          { box with style, shades, separators }, before.2))
      (stack timeline grid top timeline.lifelines.values)
      (stack (timeline.restyled name style) grid top
        (timeline.restyled name style).lifelines.values) := by
  rw [Table.get?_eq_getElem?_values] at declared
  have values : (timeline.restyled name style).lifelines.values =
      timeline.lifelines.values.modify (timeline.lifelines.keys.idxOf name) (·.restyle style) :=
    Table.values_modify _ _ _
  rw [stack_congr (timeline.column_restyled name style), values]
  exact stack_modify declared rows rowsAfter grid top

theorem rowLabels_restyled : rowLabels (timeline.restyled name style) = rowLabels timeline := by
  rw [Table.get?_eq_getElem?_values] at declared
  have alike : List.Forall₂ (fun before after : Lifeline => after.states = before.states ∧
      (after.style = .simplified ↔ before.style = .simplified))
      timeline.lifelines.values (timeline.restyled name style).lifelines.values := by
    rw [Timeline.restyled, Table.values_modify]
    refine forall₂_modify (fun _ => ⟨rfl, Iff.rfl⟩) fun value stands => ?_
    obtain rfl := Option.some.inj (declared.symm.trans stands)
    exact ⟨rfl, iff_of_false rowsAfter rows⟩
  unfold rowLabels
  rw [List.flatMap_def, List.flatMap_def]
  congr 1
  symm
  apply map_filter_eq_of_forall₂ alike
  · rintro before after ⟨-, sameRows⟩
    exact decide_eq_decide.mpr (not_congr sameRows.symm)
  · rintro before after ⟨sameStates, -⟩
    rw [sameStates]

theorem gridOf_restyled (measurer : Measurer α) :
    gridOf measurer (timeline.restyled name style) = gridOf measurer timeline := by
  unfold gridOf longestName longestLabel
  rw [Timeline.keys_restyled, rowLabels_restyled declared rows rowsAfter]
  rfl

/-- Restyling shows in the box of the lifeline alone. -/
theorem layout_restyled (measurer : Measurer α) :
    SameOutcome (fun before after => ∃ shades separators, after = { before with
        lifelines := before.lifelines.modify (timeline.lifelines.keys.idxOf name) fun box =>
          { box with style, shades, separators } })
      (layout measurer timeline) (layout measurer (timeline.restyled name style)) := by
  have sameGrid := gridOf_restyled declared rows rowsAfter measurer
  unfold layout
  rw [sameGrid]
  refine (stack_restyled declared rows rowsAfter _ _).bind ?_
  rintro ⟨boxes, height⟩ _ ⟨shades, separators, rfl⟩
  have connected : List.Forall₂ LifelineBox.ConnectsAlike boxes
      (boxes.modify (timeline.lifelines.keys.idxOf name) fun box =>
        { box with style, shades, separators }) :=
    forall₂_modify (fun _ => ⟨rfl, rfl, rfl⟩) fun _ _ => ⟨rfl, rfl, rfl⟩
  refine .bind_eq ?_ fun spans => .bind_eq ?_ fun arrows => .done ⟨shades, separators, ?_⟩
  · have sameSpan := funext (SpanLayout.layout_eq connected (gridOf measurer timeline))
    rw [sameSpan]
    rfl
  · have sameArrow :=
      funext (ArrowLayout.layout_eq connected (gridOf measurer timeline).tickCount)
    rw [sameArrow]
    rfl
  · simp only [Legend.layout, Timeline.legendTicks_restyled]
    rfl

end Page

/-- Staircases step at the changes, in either style with rows. At each tick stands a point on the row
of the state, behind a point on the row of the state before if that is another one. The track runs
through these points and is nowhere diagonal. A change from one of the two styles to the other shows
in the style, the slices and the separators of the lifeline, and nowhere else. -/
theorem staircases_step_in_either_style [Scalar α] (measurer : Measurer α) :
    (∀ timeline page, Page.layout measurer timeline = .ok page →
      List.Forall₂ (fun lifeline box => lifeline.style ≠ .simplified →
        LifelineBox.Stepped lifeline ((timeline.column lifeline.name).map Snapshot.state)
          page.grid box)
        timeline.lifelines.values page.lifelines) ∧
    ∀ (diagram : Diagram) name lifeline style, diagram.lifelines.get? name = some lifeline →
      lifeline.style ≠ .simplified → style ≠ .simplified →
      SameOutcome (fun before after => ∃ shades separators, after = { before with
          lifelines := before.lifelines.modify (diagram.lifelines.keys.idxOf name) fun box =>
            { box with style, shades, separators } })
        (Page.layout measurer diagram.timeline)
        (Page.layout measurer (diagram.restyled name style).timeline) := by
  constructor
  · intro timeline page laidOut
    apply (Page.shows_of_layout laidOut).lifelines.imp
    rintro lifeline box ⟨top, placed⟩ rows
    exact placed.stepped rows
  · intro diagram name lifeline style declared rows rowsAfter
    rw [Timeline.timeline_restyled]
    have known : diagram.timeline.lifelines.get? name = some lifeline := declared
    exact Page.layout_restyled known rows rowsAfter measurer

theorem joinedDiagram_steps_in_either_style :
    ∃ page, Page.layout FontMetrics.standard.measurer joinedDiagram.timeline = .ok page ∧
      List.Forall₂ (fun lifeline box => lifeline.style ≠ .simplified →
        LifelineBox.Stepped lifeline
          ((joinedDiagram.timeline.column lifeline.name).map Snapshot.state) page.grid box)
        joinedDiagram.timeline.lifelines.values page.lifelines ∧
      SameOutcome (fun before after => ∃ shades separators, after = { before with
          lifelines := before.lifelines.modify (joinedDiagram.lifelines.keys.idxOf "door") fun box =>
            { box with style := .slice, shades, separators } })
        (Page.layout FontMetrics.standard.measurer joinedDiagram.timeline)
        (Page.layout FontMetrics.standard.measurer (joinedDiagram.restyled "door" .slice).timeline) := by
  have named : ∀ entry ∈ joinedDiagram.timeline.lifelines.entries, entry.2.name = entry.1 := by
    decide +kernel
  have fine : joinedDiagram.timeline.faults = [] := by decide +kernel
  have accepted :
      ∃ page, Page.layout FontMetrics.standard.measurer joinedDiagram.timeline = .ok page :=
    Page.exists_layout named fine
  obtain ⟨page, laidOut⟩ := accepted
  obtain ⟨stepped, restyled⟩ := staircases_step_in_either_style FontMetrics.standard.measurer
  refine ⟨page, laidOut, stepped joinedDiagram.timeline page laidOut, ?_⟩
  exact restyled joinedDiagram "door" _ .slice rfl (by decide) (by decide)

end Chronogram
