import Chronogram.Proofs.Layout.Bus
import Chronogram.Proofs.Layout.Slices
import Chronogram.Proofs.Layout.Stack
import Chronogram.Proofs.Layout.Staircase
import Chronogram.Proofs.Pointwise

/-!
Boxes enclose what is drawn in them.

Along the page, everything in a box stands at a tick, except for the ends of a change on a bus, and
the edges of the box leave room for these. Down the page, a box has a row for each slot of its
catalog; layout has checked that every state of the lifeline has a label, so its row is one of them.
-/

namespace Chronogram

def Track.vertices {α : Type} : Track α → List (Point α)
  | .staircase points => points
  | .bus upper lower band => upper ++ lower ++ band

def Shade.corner {α : Type} [Scalar α] (shade : Shade α) : Point α :=
  ⟨shade.origin.x + shade.size.width, shade.origin.y + shade.size.height⟩

/-! ### Across the page -/

namespace Grid

variable {grid : Grid ℝ} {tick later : Nat}

theorem x_zero (grid : Grid ℝ) : grid.x 0 = grid.base := by
  simp [x]

theorem x_le_x (positive : 0 < grid.tickWidth) (order : tick ≤ later) :
    grid.x tick ≤ grid.x later := by
  have whole : (tick : ℝ) ≤ later := Nat.cast_le.mpr order
  have scaled := mul_le_mul_of_nonneg_right whole positive.le
  simp only [x, px_real, Int.cast_natCast]
  linarith

theorem x_mem (positive : 0 < grid.tickWidth) (within : tick < grid.tickCount) :
    grid.base ≤ grid.x tick ∧ grid.x tick ≤ grid.lastX := by
  constructor
  · rw [← x_zero grid]
    exact x_le_x positive (Nat.zero_le tick)
  · exact x_le_x positive (Nat.le_sub_one_of_lt within)

end Grid

theorem Timeline.length_column_le (timeline : Timeline) (name : String) :
    (timeline.column name).length ≤ timeline.tickCount := by
  unfold column column?
  split <;> simp [tickCount]

/-! ### Down the page -/

namespace LifelineBox

theorem lt_of_hasRow {states : Catalog} {state : Nat} (row : hasRow states state = true) :
    state < max states.size 1 := by
  rcases hasRow_iff.mp row with ⟨label, found⟩ | ⟨-, rfl⟩
  · obtain ⟨within, -⟩ := List.getElem?_eq_some_iff.mp (Option.join_eq_some_iff.mp found)
    exact Nat.lt_of_lt_of_le within (Nat.le_max_left _ _)
  · exact Nat.lt_of_lt_of_le Nat.one_pos (Nat.le_max_right _ _)

theorem hasRow_of_mem {states : Catalog} {column : List Snapshot} {state : Nat}
    (checked : missingState? states column = none)
    (membership : state ∈ column.map Snapshot.state) :
    hasRow states state = true := by
  obtain ⟨snapshot, stands, rfl⟩ := List.mem_map.mp membership
  obtain ⟨tick, within, rfl⟩ := List.mem_iff_getElem.mp stands
  have entry : (column[tick], tick) ∈ column.zipIdx :=
    List.mk_mem_zipIdx_iff_getElem?.mpr (List.getElem?_eq_getElem within)
  have passed := List.findSome?_eq_none_iff.mp checked _ entry
  by_contra missing
  simp [missing] at passed

theorem lt_size_of_mem_labels {states : Catalog} {entry : Nat × String}
    (labelled : entry ∈ states.labels) : entry.1 < states.size := by
  obtain ⟨⟨slot, index⟩, stored, given⟩ := List.mem_filterMap.mp labelled
  obtain ⟨label, rfl, rfl⟩ := Option.map_eq_some_iff.mp given
  obtain ⟨within, -⟩ := List.getElem?_eq_some_iff.mp (List.mk_mem_zipIdx_iff_getElem?.mp stored)
  exact within

/-- The rows of a box leave the upper and the lower margin free. -/
theorem rowY_mem {lifeline : Lifeline} {box : LifelineBox ℝ}
    (high : box.height = heightOf lifeline) (rows : lifeline.style ≠ .simplified) {state : Nat}
    (shown : state < max lifeline.states.size 1) :
    box.top + 50 ≤ rowY box.bottom state ∧ rowY box.bottom state ≤ box.bottom - 20 := by
  have below : (state : ℝ) ≤ (max lifeline.states.size 1 - 1 : Nat) :=
    Nat.cast_le.mpr (Nat.le_sub_one_of_lt shown)
  have nonneg : (0 : ℝ) ≤ state := Nat.cast_nonneg state
  rw [heightOf_of_rows rows] at high
  have ends : box.bottom = box.top + box.height := rfl
  simp only [rowY, px_real, lowerMargin, rowHeight, Int.cast_ofNat, Int.cast_natCast]
  constructor <;> linarith

/-- A point lies in a box, the edges included. The left and the right edge are common to all boxes
of a grid. -/
def Holds (grid : Grid ℝ) (box : LifelineBox ℝ) (point : Point ℝ) : Prop :=
  (grid.base - 10 ≤ point.x ∧ point.x ≤ grid.lastX + 10) ∧
    box.top ≤ point.y ∧ point.y ≤ box.bottom

theorem holds_at_tick {grid : Grid ℝ} {box : LifelineBox ℝ} (positive : 0 < grid.tickWidth)
    {tick : Nat} (within : tick < grid.tickCount) {y : ℝ} (upper : box.top ≤ y)
    (lower : y ≤ box.bottom) : box.Holds grid ⟨grid.x tick, y⟩ := by
  obtain ⟨left, right⟩ := Grid.x_mem positive within
  refine ⟨⟨?_, ?_⟩, upper, lower⟩
  · change grid.base - 10 ≤ grid.x tick
    linarith
  · change grid.x tick ≤ grid.lastX + 10
    linarith

/-- The edges of a box, from its lower left corner around and back. -/
noncomputable def rim (grid : Grid ℝ) (box : LifelineBox ℝ) : List (Point ℝ) :=
  [⟨grid.base - 10, box.bottom⟩, ⟨grid.base - 10, box.top⟩, ⟨grid.lastX + 10, box.top⟩,
    ⟨grid.lastX + 10, box.bottom⟩, ⟨grid.base - 10, box.bottom⟩]

/-- A box that encloses its track, the points that arrows can attach to, its slices and their lines,
and whose state rows keep clear of its margins. -/
structure Encloses (grid : Grid ℝ) (box : LifelineBox ℝ) : Prop where
  outline : box.outline = box.rim grid
  track : ∀ point ∈ box.track.vertices, box.Holds grid point
  attachments : ∀ points ∈ box.attachments, ∀ point ∈ points, box.Holds grid point
  shades : ∀ shade ∈ box.shades, (0 ≤ shade.size.width ∧ 0 ≤ shade.size.height) ∧
    box.Holds grid shade.origin ∧ box.Holds grid shade.corner
  separators : ∀ line ∈ box.separators, box.Holds grid line.start ∧ box.Holds grid line.finish
  stateRows : ∀ row ∈ box.stateRows, box.top + 50 ≤ row.y ∧ row.y ≤ box.bottom - 20

theorem outline_frame (lifeline : Lifeline) (grid : Grid ℝ) (top labelX : ℝ) :
    (frame lifeline grid top labelX).outline = (frame lifeline grid top labelX).rim grid := by
  simp [rim, frame, outlineOf, bottom, sidePad]

end LifelineBox

/-! ### Tracks -/

/-- A corner stands on the row of the state or on that of the state before. -/
theorem Staircase.exists_of_mem_cornersAt {grid : Grid ℝ} {height : Nat → ℝ} {tick : Nat}
    {previous : Option Nat} {state : Nat} {point : Point ℝ}
    (membership : point ∈ cornersAt grid height tick previous state) :
    ∃ level, (level = state ∨ previous = some level) ∧ point = ⟨grid.x tick, height level⟩ := by
  cases previous with
  | none =>
      obtain rfl := List.mem_singleton.mp membership
      exact ⟨state, .inl rfl, rfl⟩
  | some before =>
      by_cases same : before = state
      · simp only [cornersAt, same, ↓reduceIte, List.mem_singleton] at membership
        exact ⟨state, .inl rfl, membership⟩
      · simp only [cornersAt, same, ↓reduceIte, List.mem_cons, List.not_mem_nil,
          or_false] at membership
        rcases membership with here | here
        · exact ⟨before, .inr rfl, here⟩
        · exact ⟨state, .inl rfl, here⟩

/-- Every corner of a staircase stands at a tick, on the row of a state of the lifeline. -/
theorem Staircase.exists_of_mem_corners {grid : Grid ℝ} {height : Nat → ℝ} {states : List Nat}
    {points : List (Point ℝ)} (piece : points ∈ corners grid height states) {point : Point ℝ}
    (membership : point ∈ points) :
    ∃ tick < states.length, ∃ state ∈ states, point = ⟨grid.x tick, height state⟩ := by
  rw [corners_eq] at piece
  obtain ⟨tick, reached, rfl⟩ := List.mem_map.mp piece
  have within := List.mem_range.mp reached
  have visited : ∀ earlier ≤ tick, stateIn states earlier ∈ states := by
    intro earlier before
    have bound := Nat.lt_of_le_of_lt before within
    rw [stateIn_of_getElem? (List.getElem?_eq_getElem bound)]
    exact List.getElem_mem bound
  obtain ⟨level, stands, rfl⟩ := exists_of_mem_cornersAt membership
  refine ⟨tick, within, level, ?_, rfl⟩
  rcases stands with rfl | before
  · exact visited tick (Nat.le_refl tick)
  · cases tick with
    | zero => cases before
    | succ tick =>
        cases before
        exact visited tick (Nat.le_succ tick)

/-- Every point of a bus stands near a tick, between the rails. -/
theorem Bus.near_of_mem_stationAt {grid : Grid ℝ} (positive : 0 < grid.tickWidth) {centre : ℝ}
    {states : List Nat} {tick : Nat} {point : Point ℝ}
    (membership : point ∈ (stationAt grid centre states tick).upper ∨
      point ∈ (stationAt grid centre states tick).lower ∨
      point ∈ (stationAt grid centre states tick).attachments) :
    (grid.x tick - 8 ≤ point.x ∧ point.x ≤ grid.x tick + 8) ∧
      centre - 8 ≤ point.y ∧ point.y ≤ centre + 8 := by
  have room := run_nonneg positive
  have most : run grid ≤ 8 := min_le_left _ _
  unfold stationAt at membership
  split at membership
  · simp only [crossingAt, px_real, halfHeight, Int.cast_ofNat, List.mem_cons, List.not_mem_nil,
      or_false] at membership
    rcases membership with (rfl | rfl | rfl) | (rfl | rfl | rfl) | rfl <;>
      refine ⟨⟨?_, ?_⟩, ?_, ?_⟩ <;> simp only <;> linarith
  · simp only [straightAt, px_real, halfHeight, Int.cast_ofNat, List.mem_cons, List.not_mem_nil,
      or_false] at membership
    rcases membership with rfl | rfl | rfl | rfl <;>
      refine ⟨⟨?_, ?_⟩, ?_, ?_⟩ <;> simp only <;> linarith

/-! ### Boxes -/

namespace LifelineBox

section

variable {lifeline : Lifeline} {grid : Grid ℝ} {box : LifelineBox ℝ} {states : List Nat}
  {point : Point ℝ} (positive : 0 < grid.tickWidth)

include positive

theorem holds_of_mem_corners (short : states.length ≤ grid.tickCount)
    (high : box.height = heightOf lifeline) (rows : lifeline.style ≠ .simplified)
    (shown : ∀ state ∈ states, state < max lifeline.states.size 1) {points : List (Point ℝ)}
    (piece : points ∈ Staircase.corners grid (rowY box.bottom) states)
    (membership : point ∈ points) : box.Holds grid point := by
  obtain ⟨tick, within, state, visited, rfl⟩ := Staircase.exists_of_mem_corners piece membership
  obtain ⟨upper, lower⟩ := rowY_mem high rows (shown state visited)
  exact holds_at_tick positive (Nat.lt_of_lt_of_le within short) (by linarith) (by linarith)

theorem holds_of_mem_stations (short : states.length ≤ grid.tickCount) (high : box.height = 80)
    {station : Bus.Station ℝ}
    (stands : station ∈ Bus.stations grid (busCentre box.bottom) states)
    (membership : point ∈ station.upper ∨ point ∈ station.lower ∨ point ∈ station.attachments) :
    box.Holds grid point := by
  rw [Bus.stations_eq] at stands
  obtain ⟨tick, reached, rfl⟩ := List.mem_map.mp stands
  have within := Nat.lt_of_lt_of_le (List.mem_range.mp reached) short
  obtain ⟨⟨behind, before⟩, upper, lower⟩ := Bus.near_of_mem_stationAt positive membership
  obtain ⟨left, right⟩ := Grid.x_mem positive within
  have ends : box.bottom = box.top + box.height := rfl
  simp only [busCentre, px_real, lowerMargin, Bus.halfHeight, Int.cast_ofNat] at upper lower
  exact ⟨⟨by linarith, by linarith⟩, by linarith, by linarith⟩

end

section

variable {diagram : Diagram} {lifeline : Lifeline} {name : String} {grid : Grid ℝ}
  {box : LifelineBox ℝ} {top labelX : ℝ} (positive : 0 < grid.tickWidth)
  (sameCount : grid.tickCount = diagram.timeline.tickCount)

include sameCount in
theorem length_states_le :
    ((diagram.timeline.column name).map Snapshot.state).length ≤ grid.tickCount := by
  rw [List.length_map, sameCount]
  exact diagram.timeline.length_column_le name

include positive sameCount

theorem holds_of_mem_shades {shade : Shade ℝ} (tall : 0 ≤ box.height)
    (membership :
      shade ∈ Chronogram.shades grid box.top box.height (diagram.timeline.column name)) :
    (0 ≤ shade.size.width ∧ 0 ≤ shade.size.height) ∧
      box.Holds grid shade.origin ∧ box.Holds grid shade.corner := by
  obtain ⟨tile, stands, rfl, room, observed⟩ := exists_tile_of_mem_shades membership
  have ends := tiles_end (diagram.timeline.observations_rising name) observations_le_last stands
  have reached := observed.declared.2
  have wide := Grid.x_le_x positive room.le
  have deep : box.top ≤ box.bottom := le_add_of_nonneg_right tall
  have corner : (Shade.ofTile grid box.top box.height (diagram.timeline.stateAt name) tile).corner =
      ⟨grid.x tile.2, box.bottom⟩ := by
    simp [Shade.corner, Shade.ofTile, bottom]
  refine ⟨⟨sub_nonneg.mpr wide, tall⟩, ?_, ?_⟩
  · exact holds_at_tick positive (sameCount ▸ reached) (le_refl _) deep
  · rw [corner]
    exact holds_at_tick positive (by omega) deep (le_refl _)

theorem holds_of_mem_separators {line : Segment ℝ} (tall : 0 ≤ box.height)
    (membership : line ∈
      (box.withShading grid (diagram.timeline.column name)).separators) :
    box.Holds grid line.start ∧ box.Holds grid line.finish := by
  rw [(tiles_withShading diagram name grid box).separators] at membership
  obtain ⟨tick, observed, rfl⟩ := List.mem_map.mp membership
  have reached : tick < grid.tickCount := sameCount ▸ (Timeline.mem_observations.mp observed).1
  have deep : box.top ≤ box.bottom := le_add_of_nonneg_right tall
  constructor
  · exact holds_at_tick positive reached (le_refl _) deep
  · exact holds_at_tick positive reached deep (le_refl _)

theorem encloses_bus (simplified : lifeline.style = .simplified) :
    ((frame lifeline grid top labelX).withBus grid
      (diagram.timeline.column name)).Encloses grid := by
  have high : (frame lifeline grid top labelX).height = 80 := heightOf_of_simplified simplified
  have holds : ∀ station ∈ Bus.stations grid (busCentre (frame lifeline grid top labelX).bottom)
      ((diagram.timeline.column name).map Snapshot.state), ∀ point : Point ℝ,
      (point ∈ station.upper ∨ point ∈ station.lower ∨ point ∈ station.attachments) →
        (frame lifeline grid top labelX).Holds grid point :=
    fun _ stands _ => holds_of_mem_stations positive (length_states_le sameCount) high stands
  constructor
  · exact outline_frame lifeline grid top labelX
  · intro point membership
    simp only [withBus, Bus.track, Track.vertices, List.mem_append, List.mem_reverse,
      List.mem_flatMap] at membership
    rcases membership with (⟨station, stands, here⟩ | ⟨station, stands, here⟩) |
      ⟨station, stands, here⟩ | ⟨station, stands, here⟩
    · exact holds station stands point (.inl here)
    · exact holds station stands point (.inr (.inl here))
    · exact holds station stands point (.inl here)
    · exact holds station stands point (.inr (.inl here))
  · intro points membership point here
    obtain ⟨station, stands, rfl⟩ := List.mem_map.mp membership
    exact holds station stands point (.inr (.inr here))
  · intro shade membership
    cases membership
  · intro line membership
    cases membership
  · intro row membership
    cases membership

theorem encloses_staircase (rows : lifeline.style ≠ .simplified)
    (checked : missingState? lifeline.states (diagram.timeline.column name) = none) :
    ((frame lifeline grid top labelX).withStaircase grid lifeline.states
      (diagram.timeline.column name)).Encloses grid := by
  have high : (frame lifeline grid top labelX).height = heightOf lifeline := rfl
  have shown : ∀ state ∈ (diagram.timeline.column name).map Snapshot.state,
      state < max lifeline.states.size 1 :=
    fun _ visited => lt_of_hasRow (hasRow_of_mem checked visited)
  have holds : ∀ points ∈ Staircase.corners grid (rowY (frame lifeline grid top labelX).bottom)
      ((diagram.timeline.column name).map Snapshot.state), ∀ point ∈ points,
        (frame lifeline grid top labelX).Holds grid point :=
    fun _ piece _ =>
      holds_of_mem_corners positive (length_states_le sameCount) high rows shown piece
  constructor
  · exact outline_frame lifeline grid top labelX
  · intro point membership
    obtain ⟨points, piece, here⟩ := List.mem_flatten.mp membership
    exact holds points piece point here
  · exact holds
  · intro shade membership
    cases membership
  · intro line membership
    cases membership
  · intro row membership
    obtain ⟨entry, labelled, rfl⟩ := List.mem_map.mp membership
    have slot := lt_size_of_mem_labels labelled
    exact rowY_mem high rows (Nat.lt_of_lt_of_le slot (Nat.le_max_left _ _))

/-- Every box encloses what is drawn in it. -/
theorem Placed.encloses
    (placed : Placed lifeline (diagram.timeline.column name) grid top labelX box) :
    box.Encloses grid := by
  cases placed with
  | bus simplified => exact encloses_bus positive sameCount simplified
  | staircase normal checked =>
      exact encloses_staircase positive sameCount (by simp [normal]) checked
  | shaded slice checked =>
      have encloses : ((frame lifeline grid top labelX).withStaircase grid lifeline.states
          (diagram.timeline.column name)).Encloses grid :=
        encloses_staircase positive sameCount (by simp [slice]) checked
      have tall : 0 ≤ (frame lifeline grid top labelX).height := (heightOf_pos lifeline).le
      exact ⟨encloses.outline, encloses.track, encloses.attachments,
        fun _ => holds_of_mem_shades positive sameCount tall,
        fun _ => holds_of_mem_separators positive sameCount tall, encloses.stateRows⟩

end

end LifelineBox

/-! ### Pages -/

/-- Boxes that stand one below the other without touching, the legend below all of them, and the
lower edge of the page below the legend. -/
structure Page.Arranged (page : Page ℝ) : Prop where
  solid : ∀ box ∈ page.lifelines, box.top < box.bottom
  first : ∀ box ∈ page.lifelines.head?, box.top = 70
  next : page.lifelines.IsChain fun box below => below.top = box.bottom + 45
  last : ∀ box ∈ page.lifelines.getLast?, page.height = box.bottom + 45
  empty : page.lifelines = [] → page.height = 70
  disjoint : page.lifelines.Pairwise fun box below =>
    ∀ point, ¬(box.Holds page.grid point ∧ below.Holds page.grid point)
  legend : ∀ entry ∈ page.legend.entries, entry.position.y = page.legend.y
  below : ∀ box ∈ page.lifelines, box.bottom < page.legend.y
  inside : 0 < page.legend.y ∧ page.legend.y < page.height

theorem LifelineBox.not_holds_of_lt {grid : Grid ℝ} {box below : LifelineBox ℝ}
    (apart : box.bottom < below.top) (point : Point ℝ) :
    ¬(box.Holds grid point ∧ below.Holds grid point) := by
  rintro ⟨⟨-, -, lower⟩, -, upper, -⟩
  linarith

theorem Page.arranged_of_layout {measurer : Measurer ℝ} {timeline : Timeline} {page : Page ℝ}
    (laidOut : layout measurer timeline = .ok page) : page.Arranged := by
  have measures := measures_of_layout laidOut
  have shows := shows_of_layout laidOut
  have stacked := measures.stacked
  have tall : ∀ box ∈ page.lifelines, 0 < box.height := by
    intro box membership
    obtain ⟨lifeline, -, top, placed⟩ := exists_of_forall₂ shows.lifelines membership
    rw [placed.height_eq]
    exact LifelineBox.heightOf_pos lifeline
  have start : (px firstTop : ℝ) = 70 := by simp [firstTop]
  have raise : page.legend.y = page.height - 20 := by
    rw [measures.legend]
    simp [legendRaise]
  obtain ⟨long, within⟩ := stacked.between tall
  rw [start] at long
  refine ⟨fun box membership => LifelineBox.top_lt_bottom (tall box membership), ?_, ?_, ?_, ?_, ?_,
    ?_, ?_, ?_⟩
  · intro box first
    rw [stacked.top_of_head? first, start]
  · have chained := stacked.isChain
    rwa [LifelineBox.gap_eq] at chained
  · intro box last
    rw [stacked.next_of_getLast? last, LifelineBox.gap_eq]
  · intro empty
    rw [empty] at stacked
    rw [stacked.next_of_nil, start]
  · refine (stacked.pairwise tall).imp fun apart point => ?_
    exact LifelineBox.not_holds_of_lt (by linarith) point
  · obtain ⟨y, placed⟩ := shows.legend
    rw [placed]
    intro entry membership
    obtain ⟨tick, -, rfl⟩ := List.mem_map.mp membership
    rfl
  · intro box membership
    have finish := (within box membership).2
    linarith
  · constructor <;> linarith

/-- Boxes never overlap and enclose what is drawn in them. They stand below one another in the order
of the lifelines, with the legend below all of them; each one encloses its track, the points that
arrows attach to, its slices and their lines, and keeps its margins free of state rows; and the page
reaches beyond the right edge of the boxes. -/
theorem boxes_enclose_what_they_show (measurer : Measurer ℝ) (diagram : Diagram) {page : Page ℝ}
    (laidOut : Page.layout measurer diagram.timeline = .ok page) (positive : 0 < page.tickWidth) :
    page.Arranged ∧
    List.Forall₂ (fun lifeline box => box.name = lifeline.name ∧ box.style = lifeline.style ∧
      box.Encloses page.grid) diagram.lifelines.values page.lifelines ∧
    page.grid.lastX + 10 + 20 ≤ page.width := by
  have shows := Page.shows_of_layout laidOut
  refine ⟨Page.arranged_of_layout laidOut, ?_, ?_⟩
  · refine shows.lifelines.imp ?_
    rintro lifeline box ⟨top, placed⟩
    refine ⟨?_, ?_, placed.encloses positive shows.tickCount⟩
    · rw [placed.eq_frame]
      rfl
    · rw [placed.eq_frame]
      rfl
  · have wide : page.grid.lastX + px Page.rightPad ≤ page.width := by
      rw [(Page.measures_of_layout laidOut).width]
      exact le_max_left _ _
    simp only [px_real, Page.rightPad, Int.cast_ofNat] at wide
    linarith

/-- Three styles one below the other. Their states skip a slot, step at every tick, and are observed
at the last tick. -/
def shiftDiagram : Diagram where
  title := "Shift"
  config := Config.standard
  lifelines :=
    ⟨[("pump", ⟨"pump", .slice, ⟨[some "off", none, some "on"]⟩⟩),
      ("valve", ⟨"valve", .simplified, ⟨[some "shut"]⟩⟩),
      ("horn", ⟨"horn", .normal, ⟨[]⟩⟩)], by decide⟩
  ticks := [⟨1, "pump", 2⟩, ⟨1, "valve", 9⟩, ⟨2, "valve", 4⟩, ⟨2, "pump", 0⟩]
  spans := []
  arrows := []

theorem shiftDiagram_boxes_enclose :
    ∃ page : Page ℝ,
      Page.layout ⟨fun _ text => (text.length : ℝ)⟩ shiftDiagram.timeline = .ok page ∧
      0 < page.tickWidth ∧ page.Arranged ∧
      List.Forall₂ (fun lifeline box => box.name = lifeline.name ∧ box.style = lifeline.style ∧
        box.Encloses page.grid) shiftDiagram.lifelines.values page.lifelines ∧
      page.grid.lastX + 10 + 20 ≤ page.width := by
  have named : ∀ entry ∈ shiftDiagram.timeline.lifelines.entries, entry.2.name = entry.1 := by
    decide +kernel
  have fine : shiftDiagram.timeline.faults = [] := by decide +kernel
  have accepted : ∃ page : Page ℝ,
      Page.layout ⟨fun _ text => (text.length : ℝ)⟩ shiftDiagram.timeline = .ok page :=
    Page.exists_layout named fine
  obtain ⟨page, laidOut⟩ := accepted
  have positive : 0 < page.tickWidth := by
    rw [Page.tickWidth_of_layout laidOut]
    exact Number.Value.toReal_pos_iff.mpr (by decide +kernel)
  refine ⟨page, laidOut, positive, ?_⟩
  exact boxes_enclose_what_they_show _ shiftDiagram laidOut positive

end Chronogram
