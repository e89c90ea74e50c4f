import Chronogram.Proofs.Svg.Sound

/-!
The shapes of a page.

The texts of a page are texts of the diagram or numbers of ticks, and its colours are those of the
palette, so all shapes are sound. Their kinds follow from the time line alone: neither the measurer
nor any position or text plays a part.
-/

namespace Chronogram

variable {α : Type} [Scalar α]

/-! ### Texts and colours -/

theorem unreserved_toString (tick : Nat) : Svg.Unreserved (toString tick).toList := by
  have digits : (toString tick).toList = Nat.toDigits 10 tick := Nat.toList_repr
  intro c membership
  rw [digits] at membership
  have digit := Nat.isDigit_of_mem_toDigits (by decide) (by decide) membership
  exact Svg.IsNumberChar.unreserved (.inl digit)

omit [Scalar α] in
theorem Shape.sound_of_known {diagram : Diagram} (wellBuilt : diagram.WellBuilt) {shape : Shape α}
    (known : shape.mark.Known diagram.texts) : shape.Sound := by
  have harmless : ∀ colour ∈ Drawing.busFill :: palette, Svg.Unreserved colour.toList := by decide
  cases shape with
  | line | polyline | arrow | doubleArrow => trivial
  | rect origin size fill => exact fun colour used => harmless colour (known.fill colour used)
  | polygon points fill => exact harmless fill (known.fill fill rfl)
  | text position role content anchor =>
      rcases known.content content rfl with own | ⟨tick, rfl⟩
      · exact (wellBuilt.isMarkup_of_mem_texts own).safe
      · exact (unreserved_toString tick).safe

namespace Drawing

theorem known_ofPage {diagram : Diagram} {page : Page α}
    (named : ∀ entry ∈ diagram.lifelines.entries, entry.2.name = entry.1)
    (shows : Page.Shows diagram.timeline page) :
    ∀ shape ∈ ofPage page, shape.mark.Known diagram.texts := by
  intro shape drawn
  apply Timeline.known_marks diagram
  rw [← marks_ofPage named shows]
  exact List.mem_map_of_mem drawn

theorem sound_ofPage {diagram : Diagram} (wellBuilt : diagram.WellBuilt) {page : Page α}
    (shows : Page.Shows diagram.timeline page) : ∀ shape ∈ ofPage page, shape.Sound := by
  have named : ∀ entry ∈ diagram.lifelines.entries, entry.2.name = entry.1 := fun entry stored =>
    (wellBuilt.lifelines entry stored).named
  exact fun shape drawn => Shape.sound_of_known wellBuilt (known_ofPage named shows shape drawn)

end Drawing

/-! ### Kinds -/

def Mark.kind {α : Type} : Mark α → ShapeKind
  | .line dashed => .line dashed
  | .rect fill => .rect fill.isSome
  | .polygon _ => .polygon
  | .polyline _ => .polyline
  | .text _ _ anchor => .text anchor.isSome
  | .arrow style => .arrow (style = .dashed)
  | .doubleArrow => .doubleArrow

omit [Scalar α] in
theorem Shape.kind_mark (shape : Shape α) : shape.mark.kind = shape.kind := by
  cases shape <;> rfl

namespace Drawing

/-- The kinds of the areas and lines of a sliced lifeline. -/
def shadingKinds (column : List Snapshot) : List ShapeKind :=
  ((slices column).filterMap fun slice =>
      if slice.1 < slice.2.1 then some (.rect true) else none) ++
    (observedTicks column).map fun _ => .line true

def trackKinds (style : LifelineStyle) (column : List Snapshot) : List ShapeKind :=
  if column = [] then []
  else match style with
    | .simplified => [.polygon, .polyline, .polyline]
    | .normal | .slice => [.polyline]

/-- The kinds of the shapes of a lifeline with a number of labelled states. -/
def boxKinds (style : LifelineStyle) (labelCount tickCount : Nat) (column : List Snapshot) :
    List ShapeKind :=
  (if style = .slice then shadingKinds column else []) ++
    (.polyline :: .text false :: List.replicate tickCount (.line false)) ++
    (if style = .simplified then []
      else (List.replicate labelCount [.line false, .text true]).flatten) ++
    trackKinds style column

def arrowKinds (arrow : Arrow) : List ShapeKind :=
  .arrow (arrow.style = .dashed) :: if arrow.label.isSome then [.text true] else []

def spanKinds : List ShapeKind :=
  [.doubleArrow, .line false, .line false, .text true]

def kindsOf (timeline : Timeline) : List ShapeKind :=
  .text false ::
    (timeline.lifelines.values.flatMap fun lifeline =>
      boxKinds lifeline.style lifeline.states.labels.length timeline.tickCount
        (timeline.column lifeline.name)) ++
    (timeline.spans.flatMap fun _ => spanKinds) ++ timeline.arrows.flatMap arrowKinds ++
    timeline.legendTicks.map fun _ => .text true

omit [Scalar α] in
theorem shadingKinds_column (diagram : Diagram) (name : String) :
    shadingKinds (diagram.timeline.column name) =
      (diagram.timeline.sliceMarks name : List (Mark α)).map Mark.kind := by
  have areas : ((slices (diagram.timeline.column name)).filterMap fun slice =>
        if slice.1 < slice.2.1 then some (ShapeKind.rect true) else none) =
      ((diagram.timeline.observations name).filter fun tick =>
        tick + 1 ≠ diagram.timeline.tickCount).map fun _ => .rect true := by
    rw [filterMap_slices_column (fun _ => ShapeKind.rect true), ← starts_tiles_observations,
      List.map_map]
    rfl
  rw [shadingKinds, areas, observedTicks_column, Timeline.sliceMarks, List.map_append,
    List.map_map, List.map_map, List.map_map]
  rfl

theorem kinds_trackMarks {timeline : Timeline} {name : String}
    (declared : name ∈ timeline.lifelines.keys) (style : LifelineStyle) :
    (timeline.trackMarks style : List (Mark α)).map Mark.kind =
      trackKinds style (timeline.column name) := by
  simp only [Timeline.trackMarks, trackKinds, Timeline.column_eq_nil_iff declared]
  split
  · rfl
  · cases style <;> rfl

theorem kinds_blockMarks {diagram : Diagram} {lifeline : Lifeline}
    (declared : lifeline.name ∈ diagram.timeline.lifelines.keys) :
    (diagram.timeline.blockMarks lifeline : List (Mark α)).map Mark.kind =
      boxKinds lifeline.style lifeline.states.labels.length diagram.timeline.tickCount
        (diagram.timeline.column lifeline.name) := by
  have labels : (lifeline.shownLabels.flatMap Timeline.labelMarks : List (Mark α)).map Mark.kind =
      if lifeline.style = .simplified then []
      else (List.replicate lifeline.states.labels.length [.line false, .text true]).flatten := by
    rw [Lifeline.shownLabels]
    split
    · rfl
    · rw [← Catalog.map_snd_labels, List.flatMap_map, List.map_flatMap, List.flatMap_def,
        ← List.map_const']
      rfl
  rw [Timeline.blockMarks, boxKinds, shadingKinds_column (α := α), ← kinds_trackMarks (α := α) declared]
  simp only [List.map_append, apply_ite (List.map Mark.kind), labels, List.map_nil]
  simp [Timeline.frameMarks, Mark.kind]

/-- The kinds of the shapes of a page follow from its time line. -/
theorem kinds_ofPage {diagram : Diagram} {page : Page α}
    (named : ∀ entry ∈ diagram.lifelines.entries, entry.2.name = entry.1)
    (shows : Page.Shows diagram.timeline page) :
    (ofPage page).map Shape.kind = kindsOf diagram.timeline := by
  have boxes : (diagram.timeline.lifelines.values.flatMap
        (diagram.timeline.blockMarks (α := α))).map Mark.kind =
      diagram.timeline.lifelines.values.flatMap fun lifeline =>
        boxKinds lifeline.style lifeline.states.labels.length diagram.timeline.tickCount
          (diagram.timeline.column lifeline.name) := by
    rw [List.map_flatMap]
    exact List.flatMap_congr fun lifeline stored =>
      kinds_blockMarks (diagram.name_mem_keys named stored)
  have arrows : ∀ arrow, (Timeline.arrowMarks arrow : List (Mark α)).map Mark.kind =
      arrowKinds arrow := by
    intro arrow
    rw [Timeline.arrowMarks, arrowKinds]
    cases arrow.label <;> rfl
  have kinds : (ofPage page).map Shape.kind = ((ofPage page).map Shape.mark).map Mark.kind := by
    rw [List.map_map]
    exact List.map_congr_left fun shape _ => shape.kind_mark.symm
  rw [kinds, marks_ofPage named shows, Timeline.marks, kindsOf]
  simp only [List.map_append, List.map_cons, boxes]
  simp only [List.map_flatMap, arrows, List.map_map]
  rfl

end Drawing

end Chronogram
