import Chronogram.Proofs.Layout.Stack
import Chronogram.Proofs.Pointwise

/-!
Room for names and state labels.

The grid starts far enough to the right for the longest name and the longest label of a state side
by side. The first maximum is taken over the names of all lifelines, the second one over the labels
of those lifelines that are drawn on rows, and these are just the labels that boxes show.
-/

namespace Chronogram

namespace Page

theorem le_foldl_max (widths : List ℝ) (start : ℝ) :
    start ≤ widths.foldl Scalar.max start ∧
      ∀ width ∈ widths, width ≤ widths.foldl Scalar.max start := by
  induction widths generalizing start with
  | nil => exact ⟨le_refl start, by simp⟩
  | cons first rest inductionHypothesis =>
      obtain ⟨seen, others⟩ := inductionHypothesis (max start first)
      refine ⟨(le_max_left start first).trans seen, List.forall_mem_cons.mpr ⟨?_, others⟩⟩
      exact (le_max_right start first).trans seen

theorem le_greatest {widths : List ℝ} {width : ℝ} (membership : width ∈ widths) :
    width ≤ greatest widths :=
  (le_foldl_max widths (px 0)).2 width membership

theorem le_longestName {timeline : Timeline} {name : String} (measurer : Measurer ℝ)
    (declared : name ∈ timeline.lifelines.keys) :
    measurer.width .lifelineLabel name ≤ longestName measurer timeline :=
  le_greatest (List.mem_map_of_mem declared)

theorem le_longestLabel {timeline : Timeline} {label : String} (measurer : Measurer ℝ)
    (shown : label ∈ rowLabels timeline) :
    measurer.width .stateLabel label ≤ longestLabel measurer timeline :=
  le_greatest (List.mem_map_of_mem shown)

end Page

namespace LifelineBox

/-- Where the name of a lifeline ends. -/
noncomputable def nameEnd (measurer : Measurer ℝ) (box : LifelineBox ℝ) : ℝ :=
  box.labelPosition.x + measurer.width .lifelineLabel box.name

/-- A box shows the labels of its lifeline, unless it is drawn without rows. -/
theorem Placed.mem_stateRows {α : Type} [Scalar α] {lifeline : Lifeline} {column : List Snapshot}
    {grid : Grid α} {top labelX : α} {box : LifelineBox α}
    (placed : Placed lifeline column grid top labelX box) {row : StateRow α}
    (membership : row ∈ box.stateRows) :
    lifeline.style ≠ .simplified ∧ row ∈ stateRowsOf grid box.bottom lifeline.states := by
  cases placed with
  | bus => cases membership
  | staircase normal => exact ⟨by simp [normal], membership⟩
  | shaded slice => exact ⟨by simp [slice], membership⟩

end LifelineBox

/-- Where the label of a state starts, given that it ends at its position. -/
noncomputable def StateRow.labelStart (measurer : Measurer ℝ) (row : StateRow ℝ) : ℝ :=
  row.labelPosition.x - measurer.width .stateLabel row.label

/-- A row whose label ends in front of its axis, and whose axis ends at the first tick. -/
structure StateRow.Aligned (grid : Grid ℝ) (row : StateRow ℝ) : Prop where
  label : row.labelPosition.x = grid.base - 25
  axisStart : row.axis.start = ⟨grid.base - 20, row.y⟩
  axisFinish : row.axis.finish = ⟨grid.x 0, row.y⟩

namespace Page

variable {measurer : Measurer ℝ} {timeline : Timeline} {page : Page ℝ}

theorem gridBase_eq (laidOut : layout measurer timeline = .ok page) :
    page.grid.base = 20 + longestName measurer timeline + longestLabel measurer timeline + 40 := by
  rw [(measures_of_layout laidOut).grid]
  simp [gridOf, leftPad, axisGap]

theorem nameEnd_le (laidOut : layout measurer timeline = .ok page)
    (named : ∀ entry ∈ timeline.lifelines.entries, entry.2.name = entry.1) {box : LifelineBox ℝ}
    (membership : box ∈ page.lifelines) :
    box.nameEnd measurer ≤ 20 + longestName measurer timeline := by
  obtain ⟨lifeline, stored, top, placed⟩ :=
    exists_of_forall₂ (shows_of_layout laidOut).lifelines membership
  have declared := names_declared named lifeline stored
  have bound := le_longestName measurer declared
  rw [LifelineBox.nameEnd, placed.eq_frame]
  simpa [LifelineBox.frame, leftPad] using bound

/-- The rows of a box show labels that the grid makes room for. -/
theorem aligned_of_mem_stateRows (laidOut : layout measurer timeline = .ok page)
    {box : LifelineBox ℝ} (membership : box ∈ page.lifelines) {row : StateRow ℝ}
    (drawn : row ∈ box.stateRows) : row.label ∈ rowLabels timeline ∧ row.Aligned page.grid := by
  obtain ⟨lifeline, stored, top, placed⟩ :=
    exists_of_forall₂ (shows_of_layout laidOut).lifelines membership
  obtain ⟨rows, made⟩ := placed.mem_stateRows drawn
  obtain ⟨entry, labelled, rfl⟩ := List.mem_map.mp made
  constructor
  · have kept : lifeline ∈ timeline.lifelines.values.filter fun lifeline =>
        lifeline.style ≠ .simplified := List.mem_filter.mpr ⟨stored, by simpa using rows⟩
    exact List.mem_flatMap.mpr ⟨lifeline, kept, List.mem_map_of_mem labelled⟩
  · constructor
    · simp [LifelineBox.stateLabelGap]
    · simp [LifelineBox.axisLength]
    · simp [Grid.x]

theorem labelStart_ge (laidOut : layout measurer timeline = .ok page) {box : LifelineBox ℝ}
    (membership : box ∈ page.lifelines) {row : StateRow ℝ} (drawn : row ∈ box.stateRows) :
    20 + longestName measurer timeline + 15 ≤ row.labelStart measurer := by
  obtain ⟨shown, aligned⟩ := aligned_of_mem_stateRows laidOut membership drawn
  have bound := le_longestLabel measurer shown
  rw [StateRow.labelStart, aligned.label, gridBase_eq laidOut]
  linarith

end Page

/-- Names and state labels never collide, however wide they are. The name of every lifeline stands
at a box and ends a distance before the place where any label of a state starts, on whichever
lifeline; each label ends in front of its axis, and the axis at the first tick. -/
theorem names_end_before_labels_start (settings : Settings) (text : String) (draft : Draft)
    (parsed : settings.draft text = .ok draft) (measurer : Measurer ℝ) {page : Page ℝ}
    (laidOut : Page.layout measurer draft.diagram.timeline = .ok page) :
    page.lifelines.map LifelineBox.name = draft.diagram.lifelines.keys ∧
    (∀ named ∈ page.lifelines, ∀ box ∈ page.lifelines, ∀ row ∈ box.stateRows,
      named.nameEnd measurer + 15 ≤ row.labelStart measurer) ∧
    ∀ box ∈ page.lifelines, ∀ row ∈ box.stateRows,
      row.labelPosition.x < row.axis.start.x ∧ row.axis.start.x < row.axis.finish.x ∧
        row.axis.finish.x = page.grid.x 0 := by
  have entriesNamed : ∀ entry ∈ draft.diagram.timeline.lifelines.entries, entry.2.name = entry.1 :=
    settings.named_draft parsed
  refine ⟨?_, ?_, ?_⟩
  · exact LifelineBox.names_eq entriesNamed (Page.of_layout entriesNamed laidOut).1.fitting
  · intro named namedStands box boxStands row drawn
    have ends := Page.nameEnd_le laidOut entriesNamed namedStands
    have starts := Page.labelStart_ge laidOut boxStands drawn
    linarith
  · intro box membership row drawn
    obtain ⟨-, aligned⟩ := Page.aligned_of_mem_stateRows laidOut membership drawn
    have base : page.grid.x 0 = page.grid.base := by simp [Grid.x]
    rw [aligned.label, aligned.axisStart, aligned.axisFinish, base]
    refine ⟨?_, ?_, rfl⟩
    · change page.grid.base - 25 < page.grid.base - 20
      linarith
    · change page.grid.base - 20 < page.grid.base
      linarith

/-- A long name beside the long label of another lifeline. The label of the simplified lifeline is
longer still, but is not drawn. -/
def harbourDiagram : Diagram where
  title := "Harbour"
  config := Config.standard
  lifelines :=
    ⟨[("lock keeper & mate", ⟨"lock keeper & mate", .normal, ⟨[some "in"]⟩⟩),
      ("tide", ⟨"tide", .simplified, ⟨[some "an ebb that nobody has to see written out"]⟩⟩),
      ("gate", ⟨"gate", .slice, ⟨[none, some "half open, half shut", some "shut"]⟩⟩)], by decide⟩
  ticks := [⟨0, "gate", 1⟩, ⟨2, "gate", 2⟩, ⟨1, "tide", 3⟩]
  spans := []
  arrows := []

theorem harbourDiagram_leaves_room :
    Settings.standard.draft harbourDiagram.source =
        .ok ⟨harbourDiagram.markup Config.standard, []⟩ ∧
      let measurer : Measurer ℝ := ⟨fun _ text => text.length⟩
      ∃ page, Page.layout measurer (harbourDiagram.markup Config.standard).timeline = .ok page ∧
        page.lifelines.map LifelineBox.name =
          (harbourDiagram.markup Config.standard).lifelines.keys ∧
        (∀ named ∈ page.lifelines, ∀ box ∈ page.lifelines, ∀ row ∈ box.stateRows,
          named.nameEnd measurer + 15 ≤ row.labelStart measurer) ∧
        ∀ box ∈ page.lifelines, ∀ row ∈ box.stateRows,
          row.labelPosition.x < row.axis.start.x ∧ row.axis.start.x < row.axis.finish.x ∧
            row.axis.finish.x = page.grid.x 0 := by
  have printable : harbourDiagram.Printable := by decide
  have parsed : Settings.standard.draft harbourDiagram.source =
      .ok ⟨harbourDiagram.markup Config.standard, []⟩ :=
    Settings.standard.draft_textOf (Diagram.writable_statements printable)
      (Diagram.foldlM_statements printable Config.standard)
  refine ⟨parsed, ?_⟩
  intro measurer
  have named : ∀ entry ∈ (harbourDiagram.markup Config.standard).timeline.lifelines.entries,
      entry.2.name = entry.1 := Settings.standard.named_draft parsed
  have fine : (harbourDiagram.markup Config.standard).timeline.faults = [] := by decide +kernel
  have accepted : ∃ page,
      Page.layout measurer (harbourDiagram.markup Config.standard).timeline = .ok page :=
    Page.exists_layout named fine
  obtain ⟨page, laidOut⟩ := accepted
  refine ⟨page, laidOut, ?_⟩
  exact names_end_before_labels_start Settings.standard harbourDiagram.source _ parsed measurer
    laidOut

end Chronogram
