import Chronogram.Layout.Page
import Chronogram.Proofs.Checked.Trap
import Chronogram.Proofs.Layout.Attachment

/-!
Layout with checked steps.

The height of a box takes one from its number of rows, a bus looks at the snapshot in front of each
tick, a slice looks at the next observation and takes its colour from the palette by the state, and
the legend walks along the ticks in steps. None of this can go wrong: a box has at least one row, the
first tick has no snapshot in front of it, states wrap around the palette, and steps are at least one
tick long.
-/

namespace Chronogram

open Text Guarded LifelineBox

namespace Checked

variable {α : Type} [Scalar α]

def heightOf (lifeline : Lifeline) : Checked α :=
  match lifeline.style with
  | .simplified => .ok (px simplifiedHeight)
  | .normal | .slice => do
      let steps ← minus (max lifeline.states.size 1) 1
      .ok (px steps * px rowHeight + px upperMargin + px lowerMargin)

theorem heightOf_eq (lifeline : Lifeline) :
    (heightOf lifeline : Checked α) = .ok (LifelineBox.heightOf lifeline) := by
  have atLeastOne : 1 ≤ max lifeline.states.size 1 := Nat.le_max_right _ 1
  unfold heightOf LifelineBox.heightOf
  cases lifeline.style with
  | simplified => rfl
  | normal | slice =>
      rw [minus_of_le atLeastOne]
      rfl

def stateAt (column : List Snapshot) (tick : Nat) : Nat :=
  ((column[tick]?).getD Snapshot.initial).state

theorem element_column {column : List Snapshot} {tick : Nat} (within : tick < column.length) :
    ∃ snapshot, element column tick = .ok snapshot ∧ snapshot.state = stateAt column tick := by
  have here : column[tick]? = some column[tick] := List.getElem?_eq_getElem within
  refine ⟨column[tick], element_of_getElem? here, ?_⟩
  rw [stateAt, here, Option.getD_some]

theorem map_state_eq (column : List Snapshot) :
    column.map Snapshot.state = (List.range column.length).map (stateAt column) := by
  refine List.ext_getElem (by simp) fun tick within _ => ?_
  have inside : tick < column.length := by simpa using within
  simp [stateAt, inside]

/-! ### Buses -/

def changesAt (column : List Snapshot) (tick : Nat) (state : Nat) : Checked Bool :=
  if 0 < tick then do
    let before ← minus tick 1
    let previous ← element column before
    .ok (previous.state != state)
  else .ok false

def stations (grid : Grid α) (centre : α) (column : List Snapshot) :
    Checked (List (Bus.Station α)) :=
  column.zipIdx.mapM fun (snapshot, tick) => do
    let changed ← changesAt column tick snapshot.state
    .ok (if changed then Bus.crossingAt grid centre tick else Bus.straightAt grid centre tick)

/-- Only behind the first tick there is a snapshot to look at. -/
theorem changesAt_eq {column : List Snapshot} {tick : Nat} (within : tick < column.length)
    (state : Nat) :
    changesAt column tick state = .ok (isChange (previousOf (stateAt column) tick) state) := by
  cases tick with
  | zero => rfl
  | succ before =>
      obtain ⟨previous, taken, same⟩ := element_column (Nat.lt_of_succ_lt within)
      have back : minus (before + 1) 1 = .ok before := minus_of_le (Nat.le_add_left 1 before)
      rw [changesAt, if_pos (Nat.succ_pos before), back]
      simp only [bind, Except.bind, taken, same]
      rfl

theorem stations_eq (grid : Grid α) (centre : α) (column : List Snapshot) :
    stations grid centre column =
      .ok (Bus.stations grid centre (column.map Snapshot.state)) := by
  have taken : ∀ entry ∈ column.zipIdx, (do
        let changed ← changesAt column entry.2 entry.1.state
        .ok (if changed then Bus.crossingAt grid centre entry.2
          else Bus.straightAt grid centre entry.2) : Checked (Bus.Station α)) =
      .ok (if isChange (previousOf (stateAt column) entry.2) entry.1.state then
          Bus.crossingAt grid centre entry.2
        else Bus.straightAt grid centre entry.2) := by
    intro entry membership
    rw [changesAt_eq (List.snd_lt_of_mem_zipIdx membership)]
    rfl
  rw [stations, mapM_eq_ok taken, map_state_eq, stations_range]
  congr 1
  refine List.ext_getElem (by simp) fun tick within _ => ?_
  have inside : tick < column.length := by simpa using within
  simp [stateAt, inside]

/-! ### Slices -/

def significantTicks (column : List Snapshot) : List Nat :=
  (column.zipIdx.filter fun (snapshot, _) => snapshot.significant).map Prod.snd

/-- The tick of an observation that is given by its number; behind the last one, the last tick. -/
def sliceEnd (column : List Snapshot) (number : Nat) : Nat :=
  ((significantTicks column)[number]?).getD (column.length - 1)

/-- The slice that opens at an observation, which is given by its tick and its number. -/
def shade? (grid : Grid α) (top height : α) (column : List Snapshot) (fromTick number : Nat) :
    Checked (Option (Shade α)) := do
  let next ← plus number 1
  let toTick := sliceEnd column next
  if toTick ≤ fromTick then .ok none
  else do
    let snapshot ← element column fromTick
    let turn ← remainder snapshot.state palette.length
    let fill ← element palette turn
    .ok (some {
      fromTick, toTick
      state := snapshot.state
      origin := ⟨grid.x fromTick, top⟩
      size := ⟨grid.x toTick - grid.x fromTick, height⟩
      fill })

def shades (grid : Grid α) (top height : α) (column : List Snapshot) :
    Checked (List (Shade α)) := do
  let found ← (significantTicks column).zipIdx.mapM fun (fromTick, number) =>
    shade? grid top height column fromTick number
  .ok (found.filterMap id)

theorem observedTicks_eq (column : List Snapshot) :
    observedTicks column =
      (significantTicks column).map fun tick => (tick, stateAt column tick) := by
  rw [observedTicks, significantTicks, List.map_map, ← List.filterMap_eq_map,
    List.filterMap_filter]
  refine List.filterMap_congr fun entry membership => ?_
  have here : column[entry.2]? = some entry.1 := List.mem_zipIdx_iff_getElem?.mp membership
  by_cases significant : entry.1.significant = true <;> simp [significant, stateAt, here]

theorem lt_of_mem_significantTicks {column : List Snapshot} {tick : Nat}
    (observed : tick ∈ significantTicks column) : tick < column.length := by
  obtain ⟨entry, kept, rfl⟩ := List.mem_map.mp observed
  exact List.snd_lt_of_mem_zipIdx (List.mem_of_mem_filter kept)

theorem length_significantTicks_le (column : List Snapshot) :
    (significantTicks column).length ≤ column.length := by
  rw [significantTicks, List.length_map]
  exact Nat.le_trans (List.length_filter_le _ _) (Nat.le_of_eq List.length_zipIdx)

theorem getElem?_ends {ticks : List Nat} {number : Nat} (last : Nat)
    (within : number < ticks.length) :
    (ticks.drop 1 ++ [last])[number]? = some ((ticks[number + 1]?).getD last) := by
  by_cases inside : number + 1 < ticks.length
  · have before : number < (ticks.drop 1).length := by
      rw [List.length_drop]
      omega
    rw [List.getElem?_append_left before, List.getElem?_drop, Nat.add_comm,
      List.getElem?_eq_getElem inside]
    rfl
  · have behind : number = (ticks.drop 1).length := by
      rw [List.length_drop]
      omega
    rw [List.getElem?_eq_none (Nat.le_of_not_lt inside), behind, List.getElem?_concat_length]
    rfl

/-- Every slice runs to the next observation, the last one to the last tick. -/
theorem slices_eq (column : List Snapshot) :
    slices column = (significantTicks column).zipIdx.map fun (tick, number) =>
      (tick, sliceEnd column (number + 1), stateAt column tick) := by
  have ends : (((significantTicks column).map fun tick => (tick, stateAt column tick)).drop 1).map
      Prod.fst = (significantTicks column).drop 1 := by
    rw [List.map_drop, List.map_map]
    exact congrArg (List.drop 1) (List.map_id _)
  simp only [slices, observedTicks_eq, ends, sliceEnd]
  generalize significantTicks column = ticks
  refine List.ext_getElem ?_ fun number within _ => ?_
  · simp
    omega
  · have reached : number < ticks.length := by
      simp only [List.length_map, List.length_zip] at within
      omega
    have next := getElem?_ends (column.length - 1) reached
    obtain ⟨_, here⟩ := List.getElem?_eq_some_iff.mp next
    simp only [List.getElem_map, List.getElem_zip, List.getElem_zipIdx, Nat.zero_add, here]

theorem element_palette (state : Nat) :
    element palette (state % palette.length) = .ok (fillOf state) :=
  element_of_getElem? (List.getElem?_eq_getElem _)

def shadeOf? (grid : Grid α) (top height : α) : Nat × Nat × Nat → Option (Shade α)
  | (fromTick, toTick, state) =>
      if fromTick < toTick then
        some {
          fromTick, toTick, state
          origin := ⟨grid.x fromTick, top⟩
          size := ⟨grid.x toTick - grid.x fromTick, height⟩
          fill := fillOf state }
      else none

theorem shade?_eq (grid : Grid α) (top height : α) {column : List Snapshot} {fromTick number : Nat}
    (within : fromTick < column.length) (fits : number + 1 < Numeral.wordBound) :
    shade? grid top height column fromTick number = .ok (shadeOf? grid top height
      (fromTick, sliceEnd column (number + 1), stateAt column fromTick)) := by
  obtain ⟨snapshot, taken, same⟩ := element_column within
  have colours : 0 < palette.length := by decide
  rw [shade?, shadeOf?, plus_of_lt fits]
  simp only [bind, Except.bind]
  by_cases empty : sliceEnd column (number + 1) ≤ fromTick
  · rw [if_pos empty, if_neg (Nat.not_lt.mpr empty)]
  · rw [if_neg empty, if_pos (Nat.lt_of_not_le empty), taken]
    simp only [remainder_of_pos colours, element_palette, same]

theorem shades_eq (grid : Grid α) (top height : α) {column : List Snapshot}
    (fits : column.length < Numeral.wordBound) :
    shades grid top height column = .ok (Chronogram.shades grid top height column) := by
  have taken : ∀ entry ∈ (significantTicks column).zipIdx,
      shade? grid top height column entry.1 entry.2 = .ok (shadeOf? grid top height
        (entry.1, sliceEnd column (entry.2 + 1), stateAt column entry.1)) := by
    intro entry membership
    have observed := lt_of_mem_significantTicks (List.fst_mem_of_mem_zipIdx membership)
    have number := List.snd_lt_of_mem_zipIdx membership
    have few := length_significantTicks_le column
    exact shade?_eq grid top height observed (by omega)
  have total : Chronogram.shades grid top height column =
      (slices column).filterMap (shadeOf? grid top height) := rfl
  rw [shades, mapM_eq_ok taken, total, slices_eq, List.filterMap_map]
  simp only [bind, Except.bind, List.filterMap_map]
  rfl

/-! ### Boxes -/

def frame (lifeline : Lifeline) (grid : Grid α) (top labelX height : α) : LifelineBox α where
  name := lifeline.name
  style := lifeline.style
  top := top
  height := height
  outline := outlineOf grid top (top + height)
  labelPosition := ⟨labelX, top + height / px 2⟩
  stateRows := []
  tickMarks := tickMarksOf grid (top + height)
  track := .staircase []
  shades := []
  separators := []
  attachments := []

def box (lifeline : Lifeline) (column : List Snapshot) (grid : Grid α) (top labelX : α) :
    Guarded LayoutFault (LifelineBox α) := do
  let height ← take (heightOf lifeline)
  let empty := frame lifeline grid top labelX height
  match lifeline.style with
  | .simplified => do
      let stations ← take (stations grid (busCentre empty.bottom) column)
      return { empty with
        track := Bus.track stations
        attachments := stations.map Bus.Station.attachments }
  | .normal | .slice =>
      match missingState? lifeline.states column with
      | some (tick, state) => throw (.unknownState lifeline.name tick state)
      | none =>
          let filled := empty.withStaircase grid lifeline.states column
          if lifeline.style = .slice then do
            let shades ← take (shades grid filled.top filled.height column)
            return { filled with
              shades, separators := separators grid filled.top filled.bottom column }
          else return filled

theorem yields_box (lifeline : Lifeline) {column : List Snapshot} (grid : Grid α) (top labelX : α)
    (fits : column.length < Numeral.wordBound) :
    Yields (box lifeline column grid top labelX)
      (LifelineBox.layout lifeline column grid top labelX) := by
  refine Yields.afterStep (heightOf_eq lifeline) ?_
  unfold LifelineBox.layout
  cases style : lifeline.style with
  | simplified =>
      refine Yields.afterStep (stations_eq grid _ column) ?_
      exact yields_pure _
  | normal =>
      cases missingState? lifeline.states column with
      | some missing => exact yields_throw _
      | none => exact yields_pure _
  | slice =>
      cases missingState? lifeline.states column with
      | some missing => exact yields_throw _
      | none =>
          refine Yields.afterStep (shades_eq grid _ _ fits) ?_
          exact yields_pure _

/-! ### Pages -/

def stack (timeline : Timeline) (grid : Grid α) :
    α → List Lifeline → Guarded LayoutFault (List (LifelineBox α) × α)
  | top, [] => return ([], top)
  | top, lifeline :: rest => do
      let column := timeline.column lifeline.name
      let first ← box lifeline column grid top (px Page.leftPad)
      let (others, next) ← stack timeline grid (first.bottom + px Page.boxGap) rest
      return (first :: others, next)

def legendTicks (timeline : Timeline) : Checked (List Nat) :=
  match timeline.config.legendMode with
  | .byFrequency => stepped timeline.tickCount (max timeline.config.legendFrequency 1)
  | .onlySignificant => .ok (significantTicks timeline.firstColumn)

def page (measurer : Measurer α) (timeline : Timeline) : Guarded LayoutFault (Page α) := do
  let grid := Page.gridOf measurer timeline
  let (boxes, height) ← stack timeline grid (px Page.firstTop) timeline.lifelines.values
  let spans ← given (timeline.spans.mapM (SpanLayout.layout boxes grid))
  let arrows ← given (timeline.arrows.mapM (ArrowLayout.layout boxes grid.tickCount))
  let ticks ← take (legendTicks timeline)
  let title := Page.titleOf measurer timeline
  let legendY := height - px Page.legendRaise
  return {
    width := Scalar.max (grid.lastX + px Page.rightPad) (title.frame.width + px Page.titleMargin)
    height
    scale := Scalar.ofFloat timeline.config.scale
    gridBase := grid.base
    tickWidth := grid.tickWidth
    tickCount := grid.tickCount
    title
    lifelines := boxes
    spans, arrows
    legend := ⟨legendY, ticks.map fun tick => ⟨tick, ⟨grid.x tick, legendY⟩⟩⟩ }

theorem legendTicks_eq (timeline : Timeline) : legendTicks timeline = .ok timeline.legendTicks := by
  have positive : 0 < max timeline.config.legendFrequency 1 := Nat.le_max_right _ 1
  unfold legendTicks Timeline.legendTicks
  cases timeline.config.legendMode with
  | byFrequency => exact stepped_of_pos positive
  | onlySignificant => rfl

theorem length_column_le (timeline : Timeline) (name : String) :
    (timeline.column name).length ≤ timeline.tickCount := by
  unfold Timeline.column Timeline.column?
  by_cases declared : timeline.lifelines.contains name = true
  · rw [if_pos declared, Option.getD_some, List.length_map]
    exact Nat.le_refl _
  · rw [if_neg declared]
    exact Nat.zero_le _

theorem yields_stack {timeline : Timeline} (grid : Grid α) (top : α) (lifelines : List Lifeline)
    (fits : timeline.tickCount < Numeral.wordBound) :
    Yields (stack timeline grid top lifelines) (Page.stack timeline grid top lifelines) := by
  induction lifelines generalizing top with
  | nil => exact yields_pure _
  | cons lifeline rest inductionHypothesis =>
      have columnFits := Nat.lt_of_le_of_lt (length_column_le timeline lifeline.name) fits
      refine (yields_box lifeline grid top _ columnFits).bind fun first _ => ?_
      refine (inductionHypothesis _).bind fun others _ => ?_
      exact yields_pure _

theorem yields_page (measurer : Measurer α) {timeline : Timeline}
    (fits : timeline.tickCount < Numeral.wordBound) :
    Yields (page measurer timeline) (Page.layout measurer timeline) := by
  refine (yields_stack _ _ _ fits).bind fun stacked _ => ?_
  refine (yields_given _).bind fun spans _ => ?_
  refine (yields_given _).bind fun arrows _ => ?_
  refine Yields.afterStep (legendTicks_eq timeline) ?_
  exact yields_pure _

end Checked

end Chronogram
