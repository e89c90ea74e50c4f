import Chronogram.Drawing
import Chronogram.Proofs.Diagram.WellBuilt
import Chronogram.Proofs.Layout.Slices
import Chronogram.Proofs.Pointwise

/-!
What the shapes of a page show.

A shape without its place is a mark: an outline, a colour area, a text. The marks of a page follow
from its diagram alone. They are counted out lifeline by lifeline, span by span and arrow by arrow,
and every style of lifeline has marks of its own.
-/

namespace Chronogram

/-- A shape without its place. -/
inductive Mark (α : Type) where
  | line (dashed : Bool)
  | rect (fill : Option String)
  | polygon (fill : String)
  | polyline (strokeWidth : α)
  | text (role : TextClass) (content : String) (anchor : Option TextAnchor)
  | arrow (style : ArrowStyle)
  | doubleArrow

def Shape.mark {α : Type} : Shape α → Mark α
  | .line _ _ dashed => .line dashed
  | .rect _ _ fill => .rect fill
  | .polygon _ fill => .polygon fill
  | .polyline _ width => .polyline width
  | .text _ role content anchor => .text role content anchor
  | .arrow _ _ style => .arrow style
  | .doubleArrow _ _ => .doubleArrow

namespace Mark

variable {α : Type}

def fill? : Mark α → Option String
  | .rect fill => fill
  | .polygon fill => some fill
  | _ => none

def content? : Mark α → Option String
  | .text _ content _ => some content
  | _ => none

def isPointed : Mark α → Bool
  | .arrow _ | .doubleArrow => true
  | _ => false

/-- The colour is one of those that drawings use, and the text is one of some texts or a number. -/
structure Known (texts : List String) (mark : Mark α) : Prop where
  fill : ∀ fill ∈ mark.fill?, fill ∈ Drawing.busFill :: palette
  content : ∀ content ∈ mark.content?, content ∈ texts ∨ ∃ tick : Nat, content = toString tick

end Mark

variable {α : Type} [Scalar α]

/-! ### Marks of a time line -/

/-- The labels of states that are written beside the box of a lifeline; a simplified one has none. -/
def Lifeline.shownLabels (lifeline : Lifeline) : List String :=
  if lifeline.style = .simplified then [] else lifeline.states.slots.reduceOption

namespace Timeline

/-- A colour area for each observation before the last tick, and a dashed line for each. -/
def sliceMarks (timeline : Timeline) (name : String) : List (Mark α) :=
  (((timeline.observations name).filter fun tick => tick + 1 ≠ timeline.tickCount).map fun tick =>
      .rect (some (fillOf (timeline.stateAt name tick)))) ++
    (timeline.observations name).map fun _ => .line true

def frameMarks (timeline : Timeline) (name : String) : List (Mark α) :=
  .polyline (px 1) :: .text .lifelineLabel name none ::
    List.replicate timeline.tickCount (.line false)

def labelMarks (label : String) : List (Mark α) :=
  [.line false, .text .stateLabel label (some .finish)]

/-- A band between two rails, or a staircase; nothing where there are no ticks. -/
def trackMarks (timeline : Timeline) (style : LifelineStyle) : List (Mark α) :=
  if timeline.tickCount = 0 then []
  else match style with
    | .simplified =>
        [.polygon Drawing.busFill, .polyline (px Drawing.trackStroke),
          .polyline (px Drawing.trackStroke)]
    | .normal | .slice => [.polyline (px Drawing.trackStroke)]

/-- The marks of a lifeline. Only a sliced one has colour areas and dashed lines. -/
def blockMarks (timeline : Timeline) (lifeline : Lifeline) : List (Mark α) :=
  (if lifeline.style = .slice then timeline.sliceMarks lifeline.name else []) ++
    timeline.frameMarks lifeline.name ++
    lifeline.shownLabels.flatMap labelMarks ++ timeline.trackMarks lifeline.style

def spanMarks (span : Span) : List (Mark α) :=
  [.doubleArrow, .line false, .line false, .text .legend span.label (some .middle)]

def anchorOf : LabelSide → TextAnchor
  | .right => .start
  | .left => .finish

def arrowMarks (arrow : Arrow) : List (Mark α) :=
  .arrow arrow.style :: arrow.label.toList.map fun label =>
    .text .stateLabel label (some (anchorOf arrow.labelSide))

def legendMark (tick : Nat) : Mark α :=
  .text .legend (toString tick) (some .middle)

/-- The title, the lifelines in the order of their declaration, the spans, the arrows and the
legend. -/
def marks (timeline : Timeline) : List (Mark α) :=
  .text .title timeline.title none ::
    (timeline.lifelines.values.flatMap timeline.blockMarks) ++
    (timeline.spans.flatMap spanMarks) ++ timeline.arrows.flatMap arrowMarks ++
    timeline.legendTicks.map legendMark

end Timeline

section Known

variable {texts : List String}

omit [Scalar α] in
theorem Mark.known_text {content : String} (among : content ∈ texts) (role : TextClass)
    (anchor : Option TextAnchor) : (Mark.text role content anchor : Mark α).Known texts :=
  ⟨by simp [fill?], by simp [content?, among]⟩

omit [Scalar α] in
theorem Mark.known_bare {mark : Mark α} (unfilled : mark.fill? = none)
    (textless : mark.content? = none) : mark.Known texts :=
  ⟨by simp [unfilled], by simp [textless]⟩

namespace Timeline

omit [Scalar α] in
theorem known_sliceMarks (timeline : Timeline) (name : String) :
    ∀ mark ∈ (timeline.sliceMarks name : List (Mark α)), mark.Known texts := by
  intro mark membership
  rcases List.mem_append.mp membership with area | line
  · obtain ⟨tick, -, rfl⟩ := List.mem_map.mp area
    refine ⟨?_, by simp [Mark.content?]⟩
    rintro fill ⟨⟩
    exact List.mem_cons_of_mem _ (List.get_mem _ _)
  · obtain ⟨tick, -, rfl⟩ := List.mem_map.mp line
    exact Mark.known_bare rfl rfl

theorem known_trackMarks (timeline : Timeline) (style : LifelineStyle) :
    ∀ mark ∈ (timeline.trackMarks style : List (Mark α)), mark.Known texts := by
  have band : (Mark.polygon Drawing.busFill : Mark α).Known texts :=
    ⟨by simp [Mark.fill?], by simp [Mark.content?]⟩
  unfold trackMarks
  split
  · simp
  · cases style with
    | normal | slice => exact List.forall_mem_singleton.mpr (Mark.known_bare rfl rfl)
    | simplified =>
        simp only [List.forall_mem_cons]
        exact ⟨band, Mark.known_bare rfl rfl, Mark.known_bare rfl rfl, by simp⟩

theorem known_blockMarks (timeline : Timeline) {lifeline : Lifeline}
    (among : ∀ text ∈ lifeline.texts, text ∈ texts) :
    ∀ mark ∈ (timeline.blockMarks lifeline : List (Mark α)), mark.Known texts := by
  obtain ⟨name, labels⟩ := List.forall_mem_cons.mp among
  rw [Catalog.map_snd_labels] at labels
  simp only [blockMarks, List.forall_mem_append]
  refine ⟨⟨⟨?_, ?_⟩, ?_⟩, known_trackMarks timeline lifeline.style⟩
  · split
    · exact known_sliceMarks timeline lifeline.name
    · simp
  · refine List.forall_mem_cons.mpr ⟨Mark.known_bare rfl rfl, ?_⟩
    refine List.forall_mem_cons.mpr ⟨Mark.known_text name _ _, ?_⟩
    intro mark membership
    rw [(List.mem_replicate.mp membership).2]
    exact Mark.known_bare rfl rfl
  · have shown : ∀ label ∈ lifeline.shownLabels, label ∈ texts := by
      unfold Lifeline.shownLabels
      split
      · simp
      · exact labels
    intro mark membership
    obtain ⟨label, stored, drawn⟩ := List.mem_flatMap.mp membership
    have both : ∀ mark ∈ (labelMarks label : List (Mark α)), mark.Known texts :=
      List.forall_mem_cons.mpr ⟨Mark.known_bare rfl rfl,
        List.forall_mem_singleton.mpr (Mark.known_text (shown label stored) _ _)⟩
    exact both mark drawn

omit [Scalar α] in
theorem known_spanMarks {span : Span} (among : ∀ text ∈ span.texts, text ∈ texts) :
    ∀ mark ∈ (spanMarks span : List (Mark α)), mark.Known texts := by
  have label := among span.label (by simp [Span.texts])
  simp only [spanMarks, List.forall_mem_cons]
  exact ⟨Mark.known_bare rfl rfl, Mark.known_bare rfl rfl, Mark.known_bare rfl rfl,
    Mark.known_text label _ _, by simp⟩

omit [Scalar α] in
theorem known_arrowMarks {arrow : Arrow} (among : ∀ text ∈ arrow.texts, text ∈ texts) :
    ∀ mark ∈ (arrowMarks arrow : List (Mark α)), mark.Known texts := by
  refine List.forall_mem_cons.mpr ⟨Mark.known_bare rfl rfl, ?_⟩
  intro mark membership
  obtain ⟨label, labelled, rfl⟩ := List.mem_map.mp membership
  exact Mark.known_text (among label (by simp_all [Arrow.texts])) _ _

/-- Drawings have few colours, and their texts are those of the diagram and the numbers of ticks. -/
theorem known_marks (diagram : Diagram) :
    ∀ mark ∈ (diagram.timeline.marks : List (Mark α)), mark.Known diagram.texts := by
  have known {β : Type} {items : List β} {marksOf : β → List (Mark α)}
      (each : ∀ item ∈ items, ∀ mark ∈ marksOf item, mark.Known diagram.texts) :
      ∀ mark ∈ items.flatMap marksOf, mark.Known diagram.texts := by
    intro mark membership
    obtain ⟨item, stored, drawn⟩ := List.mem_flatMap.mp membership
    exact each item stored mark drawn
  simp only [marks, List.forall_mem_append, List.forall_mem_cons]
  refine ⟨⟨⟨⟨?_, known ?_⟩, known ?_⟩, known ?_⟩, ?_⟩
  · exact Mark.known_text (by simp [Diagram.texts, Diagram.timeline]) _ _
  · intro lifeline stored
    refine known_blockMarks _ fun text used => ?_
    simp only [Diagram.texts, List.mem_cons, List.mem_append, List.mem_flatMap]
    exact .inr (.inl (.inl ⟨lifeline, stored, used⟩))
  · intro span stored
    refine known_spanMarks fun text used => ?_
    simp only [Diagram.texts, List.mem_cons, List.mem_append, List.mem_flatMap]
    exact .inr (.inl (.inr ⟨span, stored, used⟩))
  · intro arrow stored
    refine known_arrowMarks fun text used => ?_
    simp only [Diagram.texts, List.mem_cons, List.mem_append, List.mem_flatMap]
    exact .inr (.inr ⟨arrow, stored, used⟩)
  · intro mark membership
    obtain ⟨tick, -, rfl⟩ := List.mem_map.mp membership
    exact ⟨by simp [legendMark, Mark.fill?], by simp [legendMark, Mark.content?]⟩

end Timeline

end Known

theorem Timeline.column_eq_nil_iff {timeline : Timeline} {name : String}
    (declared : name ∈ timeline.lifelines.keys) :
    timeline.column name = [] ↔ timeline.tickCount = 0 := by
  rw [Timeline.column_eq declared, List.map_eq_nil_iff, List.range_eq_nil]

theorem Diagram.name_mem_keys (diagram : Diagram) {lifeline : Lifeline}
    (named : ∀ entry ∈ diagram.lifelines.entries, entry.2.name = entry.1)
    (stored : lifeline ∈ diagram.lifelines.values) : lifeline.name ∈ diagram.lifelines.keys := by
  obtain ⟨entry, membership, rfl⟩ := List.mem_map.mp stored
  rw [named entry membership]
  exact List.mem_map_of_mem membership

/-! ### Marks of a page -/

namespace Drawing

open Timeline

variable {diagram : Diagram}

theorem starts_tiles_observations (diagram : Diagram) (name : String) :
    (tiles (diagram.timeline.observations name) (diagram.timeline.tickCount - 1)).map Prod.fst =
      (diagram.timeline.observations name).filter fun tick =>
        tick + 1 ≠ diagram.timeline.tickCount := by
  rw [starts_tiles (diagram.timeline.observations_rising name) observations_le_last]
  refine List.filter_congr fun tick membership => ?_
  have within := (mem_observations.mp membership).1
  rw [decide_eq_decide]
  omega

theorem marks_shades (diagram : Diagram) (name : String) (grid : Grid α) (top height : α) :
    ((shades grid top height (diagram.timeline.column name)).map fun shade =>
        (Mark.rect (some shade.fill) : Mark α)) =
      ((diagram.timeline.observations name).filter fun tick =>
        tick + 1 ≠ diagram.timeline.tickCount).map fun tick =>
          .rect (some (fillOf (diagram.timeline.stateAt name tick))) := by
  rw [shades_column, List.map_map, ← starts_tiles_observations, List.map_map]
  rfl

theorem marks_separators (diagram : Diagram) (name : String) (grid : Grid α) (top bottom : α) :
    ((separators grid top bottom (diagram.timeline.column name)).map fun _ =>
        (Mark.line true : Mark α)) =
      (diagram.timeline.observations name).map fun _ => .line true := by
  rw [separators, observedTicks_column, List.map_map, List.map_map]
  rfl

theorem marks_tickMarks (grid : Grid α) (bottom : α) :
    ((LifelineBox.tickMarksOf grid bottom).map fun _ => (Mark.line false : Mark α)) =
      List.replicate grid.tickCount (.line false) := by
  simp [LifelineBox.tickMarksOf, Function.comp_def]

theorem marks_stateRows (grid : Grid α) (bottom : α) (states : Catalog) :
    ((LifelineBox.stateRowsOf grid bottom states).flatMap fun row =>
        (labelMarks row.label : List (Mark α))) =
      states.slots.reduceOption.flatMap labelMarks := by
  rw [← Catalog.map_snd_labels, LifelineBox.stateRowsOf, List.flatMap_map, List.flatMap_map]

theorem marks_trackShapes_corners (grid : Grid α) (rowY : Nat → α) (states : List Nat) :
    (trackShapes (.staircase (Staircase.corners grid rowY states).flatten)).map Shape.mark =
      if states = [] then [] else [.polyline (px trackStroke)] := by
  cases states with
  | nil => rfl
  | cons first rest => rfl

theorem marks_trackShapes_stations (grid : Grid α) (centre : α) (states : List Nat) :
    (trackShapes (Bus.track (Bus.stations grid centre states))).map Shape.mark =
      if states = [] then []
      else [.polygon busFill, .polyline (px trackStroke), .polyline (px trackStroke)] := by
  cases states with
  | nil => rfl
  | cons first rest => rfl

theorem marks_boxShapes_eq (box : LifelineBox α) :
    (boxShapes box).map Shape.mark =
      ((box.shades.map fun shade => .rect (some shade.fill)) ++
          box.separators.map fun _ => .line true) ++
        (.polyline (px 1) :: .text .lifelineLabel box.name none ::
          box.tickMarks.map fun _ => .line false) ++
        (box.stateRows.flatMap fun row => labelMarks row.label) ++
        (trackShapes box.track).map Shape.mark := by
  simp [boxShapes, shadingShapes, frameShapes, rowShapes, labelMarks, solidLine, dashedLine,
    Shape.mark, List.map_flatMap, Function.comp_def]

variable {lifeline : Lifeline} {grid : Grid α} {top labelX : α} {box : LifelineBox α}

theorem marks_boxShapes (declared : lifeline.name ∈ diagram.timeline.lifelines.keys)
    (gridCount : grid.tickCount = diagram.timeline.tickCount)
    (placed : LifelineBox.Placed lifeline (diagram.timeline.column lifeline.name) grid top labelX
      box) :
    (boxShapes box).map Shape.mark = diagram.timeline.blockMarks lifeline := by
  have nothing : (diagram.timeline.column lifeline.name).map Snapshot.state = [] ↔
      diagram.timeline.tickCount = 0 := by
    rw [List.map_eq_nil_iff, column_eq_nil_iff declared]
  rw [marks_boxShapes_eq, blockMarks, Lifeline.shownLabels]
  cases placed with
  | bus simplified =>
      simp only [LifelineBox.withBus, LifelineBox.frame, marks_tickMarks, gridCount,
        marks_trackShapes_stations, nothing, simplified, trackMarks, frameMarks]
      simp
  | staircase normal =>
      simp only [LifelineBox.withStaircase, LifelineBox.frame, marks_tickMarks, gridCount,
        marks_stateRows, marks_trackShapes_corners, nothing, normal, trackMarks, frameMarks]
      simp
  | shaded slice =>
      simp only [LifelineBox.withShading, LifelineBox.withStaircase, LifelineBox.frame,
        marks_tickMarks, gridCount, marks_stateRows, marks_trackShapes_corners, marks_shades,
        marks_separators, nothing, slice, trackMarks, frameMarks, sliceMarks]
      simp

theorem marks_arrowShapes {boxes : List (LifelineBox α)} {tickCount : Nat} {arrow : Arrow}
    {drawn : ArrowLayout α} (laidOut : ArrowLayout.layout boxes tickCount arrow = .ok drawn) :
    (arrowShapes drawn).map Shape.mark = arrowMarks arrow := by
  obtain ⟨start, -, remaining⟩ := bind_eq_ok_iff.mp laidOut
  obtain ⟨finish, -, given⟩ := bind_eq_ok_iff.mp remaining
  cases given
  rw [arrowMarks]
  cases labelled : arrow.label with
  | none => simp [arrowShapes, Shape.mark]
  | some label =>
      cases arrow.labelSide <;>
        simp [arrowShapes, ArrowLayout.placeLabel, Shape.mark, anchorOf]

theorem marks_spanShapes {boxes : List (LifelineBox α)} {span : Span} {drawn : SpanLayout α}
    (laidOut : SpanLayout.layout boxes grid span = .ok drawn) :
    (spanShapes drawn).map Shape.mark = spanMarks span := by
  obtain ⟨box, -, remaining⟩ := bind_eq_ok_iff.mp laidOut
  obtain ⟨_, -, given⟩ := bind_eq_ok_iff.mp remaining
  cases given
  rfl

/-- A page shows the marks of its diagram, one shape for each. -/
theorem marks_ofPage {page : Page α}
    (named : ∀ entry ∈ diagram.lifelines.entries, entry.2.name = entry.1)
    (shows : Page.Shows diagram.timeline page) :
    (ofPage page).map Shape.mark = diagram.timeline.marks := by
  have boxes : (page.lifelines.flatMap boxShapes).map Shape.mark =
      diagram.timeline.lifelines.values.flatMap diagram.timeline.blockMarks := by
    have declared : ∀ lifeline ∈ diagram.timeline.lifelines.values,
        lifeline.name ∈ diagram.timeline.lifelines.keys := fun _ => diagram.name_mem_keys named
    rw [List.map_flatMap]
    refine (flatMap_eq_of_forall₂
      ((List.forall₂_and_left _ _).mpr ⟨declared, shows.lifelines⟩) ?_).symm
    rintro lifeline box ⟨known, top, placed⟩
    exact (marks_boxShapes known shows.tickCount placed).symm
  have spans : (page.spans.flatMap spanShapes).map Shape.mark =
      diagram.timeline.spans.flatMap spanMarks := by
    rw [List.map_flatMap]
    refine (flatMap_eq_of_forall₂ (forall₂_of_mapM shows.spans) ?_).symm
    exact fun span drawn laidOut => (marks_spanShapes laidOut).symm
  have arrows : (page.arrows.flatMap arrowShapes).map Shape.mark =
      diagram.timeline.arrows.flatMap arrowMarks := by
    rw [List.map_flatMap]
    refine (flatMap_eq_of_forall₂ (forall₂_of_mapM shows.arrows) ?_).symm
    exact fun arrow drawn laidOut => (marks_arrowShapes laidOut).symm
  have legend : (page.legend.entries.map legendShape).map Shape.mark =
      diagram.timeline.legendTicks.map legendMark := by
    obtain ⟨y, laidOut⟩ := shows.legend
    rw [laidOut, Legend.layout, List.map_map, List.map_map]
    rfl
  simp only [ofPage, List.map_append, List.map_cons, boxes, spans, arrows, legend, marks]
  rw [titleShape, Shape.mark, shows.title]

end Drawing

end Chronogram
