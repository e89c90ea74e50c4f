import Chronogram.Proofs.Diagram.RoundTrip
import Chronogram.Proofs.Layout.Dependence
import Chronogram.Proofs.Timeline.Repetition

/-!
What the layout makes of marks.

Tracks and rows are made from the states of a column alone. Whether a state was observed matters in
two places: a sliced lifeline opens a slice at each of its observations, and the legend may name the
ticks at which the first lifeline was observed. So a mark that is added to a time line can show
there and nowhere else.
-/

namespace Chronogram

variable {α : Type} {name : String}

namespace LifelineBox

/-- Boxes that are equal apart from the slices of one lifeline. -/
structure SameButSlices (name : String) (before after : LifelineBox α) : Prop where
  rest : after = { before with shades := after.shades, separators := after.separators }
  elsewhere : ¬(before.name = name ∧ before.style = .slice) → after = before

theorem SameButSlices.refl (box : LifelineBox α) : SameButSlices name box box :=
  ⟨rfl, fun _ => rfl⟩

theorem SameButSlices.connectsAlike {before after : LifelineBox α}
    (same : SameButSlices name before after) : ConnectsAlike before after := by
  constructor <;> rw [same.rest]

theorem missingState?_congr {states : Catalog} {column others : List Snapshot}
    (same : others.map Snapshot.state = column.map Snapshot.state) :
    missingState? states others = missingState? states column := by
  have byStates : ∀ snapshots : List Snapshot, missingState? states snapshots =
      (snapshots.map Snapshot.state).zipIdx.findSome? fun entry =>
        if hasRow states entry.1 then none else some (entry.2, entry.1) := by
    intro snapshots
    rw [List.zipIdx_map, List.findSome?_map]
    rfl
  rw [byStates, byStates, same]

theorem layout_sameButSlices [Scalar α] {lifeline : Lifeline} {column others : List Snapshot}
    (sameStates : others.map Snapshot.state = column.map Snapshot.state)
    (unmarked : lifeline.name ≠ name → others = column) (grid : Grid α) (top labelX : α) :
    SameOutcome (SameButSlices name) (layout lifeline column grid top labelX)
      (layout lifeline others grid top labelX) := by
  by_cases here : lifeline.name = name
  · unfold layout
    cases style : lifeline.style with
    | simplified =>
        simp only [withBus, sameStates]
        exact .done (.refl _)
    | normal =>
        simp only [missingState?_congr sameStates, withStaircase, sameStates]
        cases missingState? lifeline.states column with
        | some missing => exact .failed _
        | none => exact .done (.refl _)
    | slice =>
        simp only [missingState?_congr sameStates, withStaircase, sameStates]
        cases missingState? lifeline.states column with
        | some missing => exact .failed _
        | none => exact .done ⟨rfl, fun apart => absurd ⟨here, style⟩ apart⟩
  · exact .of_eq .refl (by rw [unmarked here])

end LifelineBox

namespace Page

/-- Pages that are equal apart from the slices of one lifeline and the entries of the legend. -/
structure SameButMarks (timeline : Timeline) (name : String) (before after : Page α) : Prop where
  rest : after = { before with
    lifelines := after.lifelines
    legend := { before.legend with entries := after.legend.entries } }
  lifelines : List.Forall₂ (LifelineBox.SameButSlices name) before.lifelines after.lifelines
  legend :
    ¬(timeline.config.legendMode = .onlySignificant ∧ timeline.lifelines.keys.head? = some name) →
      after.legend = before.legend

variable [Scalar α] (timeline : Timeline) (time : Nat)

theorem stack_marking (grid : Grid α) (lifelines : List Lifeline) (top : α) :
    SameOutcome (fun before after =>
        List.Forall₂ (LifelineBox.SameButSlices name) before.1 after.1 ∧ after.2 = before.2)
      (stack timeline grid top lifelines)
      (stack (timeline.marking name time) grid top lifelines) := by
  induction lifelines generalizing top with
  | nil => exact .done ⟨.nil, rfl⟩
  | cons lifeline rest inductionHypothesis =>
      unfold stack
      refine (LifelineBox.layout_sameButSlices
        (timeline.states_column_marking name time lifeline.name)
        (timeline.column_marking_of_ne name time) grid top (px leftPad)).bind ?_
      intro before after here
      have sameBottom : after.bottom = before.bottom := by
        rw [here.rest]
        rfl
      rw [sameBottom]
      refine (inductionHypothesis _).bind ?_
      rintro ⟨boxes, next⟩ ⟨others, _⟩ ⟨same, rfl⟩
      exact .done ⟨.cons here same, rfl⟩

theorem legendTicks_marking
    (blind : ¬(timeline.config.legendMode = .onlySignificant ∧
      timeline.lifelines.keys.head? = some name)) :
    (timeline.marking name time).legendTicks = timeline.legendTicks := by
  have sameConfig : (timeline.marking name time).config = timeline.config := rfl
  have sameLifelines : (timeline.marking name time).lifelines = timeline.lifelines := rfl
  unfold Timeline.legendTicks
  rw [sameConfig]
  cases mode : timeline.config.legendMode with
  | byFrequency => simp only [Timeline.tickCount_marking]
  | onlySignificant =>
      have sameColumn : (timeline.marking name time).firstColumn = timeline.firstColumn := by
        unfold Timeline.firstColumn
        rw [sameLifelines]
        cases declared : timeline.lifelines.keys with
        | nil => rfl
        | cons first others =>
            refine timeline.column_marking_of_ne name time ?_
            rintro rfl
            exact blind ⟨mode, by rw [declared, List.head?_cons]⟩
      simp only [sameColumn]

/-- A mark shows in slices and in the legend. -/
theorem layout_marking (measurer : Measurer α) :
    SameOutcome (SameButMarks timeline name) (layout measurer timeline)
      (layout measurer (timeline.marking name time)) := by
  have sameGrid : gridOf measurer (timeline.marking name time) = gridOf measurer timeline := by
    rw [gridOf, Timeline.tickCount_marking]
    rfl
  unfold layout
  rw [sameGrid]
  refine (stack_marking timeline time _ _ _).bind ?_
  rintro ⟨boxes, height⟩ ⟨others, _⟩ ⟨same, rfl⟩
  have connected := same.imp fun _ _ here => here.connectsAlike
  refine .bind_eq ?_ fun spans => .bind_eq ?_ fun arrows => .done ?_
  · have sameSpan := funext fun span =>
      SpanLayout.layout_eq connected (gridOf measurer timeline) span
    rw [sameSpan, Timeline.marking]
  · have sameArrow := funext fun arrow =>
      ArrowLayout.layout_eq connected (gridOf measurer timeline).tickCount arrow
    rw [sameArrow, Timeline.marking]
  · refine ⟨rfl, same, fun blind => ?_⟩
    simp only [Legend.layout, legendTicks_marking timeline time blind]

end Page

/-- An observation that repeats the state of a lifeline changes nothing but its mark. The dense rows
gain one mark, and the layout fails with the same fault or gives the same page, apart from the slices
of that lifeline and from the legend if it names the observations of that lifeline. -/
theorem repeating_only_marks (diagram : Diagram) {name : String} {time last : Nat}
    (declared : name ∈ diagram.lifelines.keys)
    (latest : (diagram.ticks.map Tick.time).max? = some last) (reached : time ≤ last)
    (unobserved : ∀ tick ∈ diagram.ticks, tick.time = time → tick.lifeline ≠ name) :
    ∃ state, diagram.timeline.snapshot? name time = some ⟨state, false⟩ ∧
      (diagram.observing ⟨time, name, state⟩).rows =
        diagram.rows.modify time (Row.observe name) ∧
      ∀ {α : Type} [Scalar α] (measurer : Measurer α),
        SameOutcome (Page.SameButMarks diagram.timeline name)
          (Page.layout measurer diagram.timeline)
          (Page.layout measurer (diagram.observing ⟨time, name, state⟩).timeline) := by
  have within : time < diagram.timeCount := by
    rw [Diagram.timeCount_eq diagram latest]
    exact Nat.lt_succ_of_le reached
  have missing := (diagram.observed?_eq_none_iff name time).mpr unobserved
  have carried := diagram.snapshotAt_of_unobserved name time missing
  have repeated : diagram.repeating name time =
      diagram.observing ⟨time, name, diagram.stateBefore name time⟩ := by
    rw [Diagram.repeating, carried]
  refine ⟨diagram.stateBefore name time, ?_, ?_, ?_⟩
  · have shown : diagram.rows[time]? = some (diagram.rowAt time) := by
      rw [Diagram.rows_eq, List.getElem?_map, List.getElem?_range within, Option.map_some]
    rw [Timeline.snapshot?_of_some diagram name time shown,
      Timeline.get?_rowAt diagram name time declared, carried]
  · rw [← repeated]
    exact diagram.rows_repeating within
  · intro α _ measurer
    rw [← repeated, diagram.timeline_repeating within]
    exact Page.layout_marking diagram.timeline time measurer

/-- A sliced lifeline that is not observed at its ticks 1 and 2. -/
def drowsyDiagram : Diagram where
  title := "Noon"
  config := { Config.standard with legendMode := .onlySignificant }
  lifelines := ⟨[("cat", ⟨"cat", .slice, ⟨[some "asleep", some "awake"]⟩⟩)], by decide⟩
  ticks := [⟨0, "cat", 1⟩, ⟨3, "cat", 0⟩]
  spans := []
  arrows := []

theorem drowsyDiagram_stays_awake :
    Settings.standard.draft drowsyDiagram.source =
        .ok ⟨drowsyDiagram.markup Config.standard, []⟩ ∧
      let diagram := drowsyDiagram.markup Config.standard
      let repeated := diagram.observing ⟨2, "cat", 1⟩
      diagram.timeline.snapshot? "cat" 2 = some ⟨1, false⟩ ∧
      repeated.rows = diagram.rows.modify 2 (Row.observe "cat") ∧
      SameOutcome (Page.SameButMarks diagram.timeline "cat")
        (Page.layout FontMetrics.standard.measurer diagram.timeline)
        (Page.layout FontMetrics.standard.measurer repeated.timeline) := by
  have printable : drowsyDiagram.Printable := by decide
  have parsed : Settings.standard.draft drowsyDiagram.source =
      .ok ⟨drowsyDiagram.markup Config.standard, []⟩ :=
    Settings.standard.draft_textOf (Diagram.writable_statements printable)
      (Diagram.foldlM_statements printable Config.standard)
  have declared : "cat" ∈ (drowsyDiagram.markup Config.standard).lifelines.keys := by
    decide +kernel
  have latest : ((drowsyDiagram.markup Config.standard).ticks.map Tick.time).max? = some 3 := by
    decide +kernel
  have unobserved : ∀ tick ∈ (drowsyDiagram.markup Config.standard).ticks,
      tick.time = 2 → tick.lifeline ≠ "cat" := by
    decide +kernel
  obtain ⟨state, carried, rows, pages⟩ :=
    repeating_only_marks (drowsyDiagram.markup Config.standard) declared latest
      (Nat.le_succ 2) unobserved
  have awake : (drowsyDiagram.markup Config.standard).timeline.snapshot? "cat" 2 =
      some ⟨1, false⟩ := by decide +kernel
  obtain rfl : 1 = state := by
    rw [awake] at carried
    exact congrArg Snapshot.state (Option.some.inj carried)
  exact ⟨parsed, carried, rows, pages FontMetrics.standard.measurer⟩

end Chronogram
