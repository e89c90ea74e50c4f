import Chronogram.Layout.Box
import Chronogram.Proofs.FirstFault
import Chronogram.Proofs.Layout.Reference

/-!
The points that a box offers.

The track of a lifeline is computed from the list of its states, each paired with the state before.
Here it is described tick by tick: how many points a box offers at a tick and where they stand, and
with which fault the layout of a box fails.
-/

namespace Chronogram

variable {α : Type} [Scalar α]

def previousOf (state : Nat → Nat) : Nat → Option Nat
  | 0 => none
  | tick + 1 => some (state tick)

theorem zipIdx_map_range {β : Type} (f : Nat → β) (count : Nat) :
    ((List.range count).map f).zipIdx = (List.range count).map fun tick => (f tick, tick) :=
  List.ext_getElem (by simp) fun tick _ _ => by simp

theorem zipIdx_withPrevious (state : Nat → Nat) (count : Nat) :
    (withPrevious ((List.range count).map state)).zipIdx =
      (List.range count).map fun tick => ((previousOf state tick, state tick), tick) := by
  refine List.ext_getElem (by simp [withPrevious]) fun tick within _ => ?_
  have bound : tick < count := by simpa [withPrevious] using within
  cases tick <;> simp [withPrevious, previousOf]

theorem corners_range (grid : Grid α) (rowY : Nat → α) (state : Nat → Nat) (count : Nat) :
    Staircase.corners grid rowY ((List.range count).map state) =
      (List.range count).map fun tick =>
        Staircase.cornersAt grid rowY tick (previousOf state tick) (state tick) := by
  simp [Staircase.corners, zipIdx_withPrevious, Function.comp_def]

theorem stations_range (grid : Grid α) (centre : α) (state : Nat → Nat) (count : Nat) :
    Bus.stations grid centre ((List.range count).map state) =
      (List.range count).map fun tick =>
        if isChange (previousOf state tick) (state tick) then Bus.crossingAt grid centre tick
        else Bus.straightAt grid centre tick := by
  simp [Bus.stations, zipIdx_withPrevious, Function.comp_def]

theorem length_cornersAt (grid : Grid α) (rowY : Nat → α) (tick : Nat) (previous : Option Nat)
    (state : Nat) :
    (Staircase.cornersAt grid rowY tick previous state).length =
      if isChange previous state then 2 else 1 := by
  cases previous with
  | none => rfl
  | some before =>
      by_cases same : before = state <;> simp [Staircase.cornersAt, isChange, same]

theorem x_of_mem_cornersAt {grid : Grid α} {rowY : Nat → α} {tick : Nat} {previous : Option Nat}
    {state : Nat} {point : Point α}
    (membership : point ∈ Staircase.cornersAt grid rowY tick previous state) :
    point.x = grid.x tick := by
  cases previous with
  | none =>
      obtain rfl := List.mem_singleton.mp membership
      rfl
  | some before =>
      by_cases same : before = state
      · simp only [Staircase.cornersAt, same, ↓reduceIte, List.mem_singleton] at membership
        rw [membership]
      · simp only [Staircase.cornersAt, same, ↓reduceIte, List.mem_cons, List.not_mem_nil,
          or_false] at membership
        rcases membership with rfl | rfl <;> rfl

theorem x_of_mem_crossingAt {grid : Grid α} {centre : α} {tick : Nat} {point : Point α}
    (membership : point ∈ (Bus.crossingAt grid centre tick).attachments) :
    point.x = grid.x tick := by
  obtain rfl := List.mem_singleton.mp membership
  rfl

theorem x_of_mem_straightAt {grid : Grid α} {centre : α} {tick : Nat} {point : Point α}
    (membership : point ∈ (Bus.straightAt grid centre tick).attachments) :
    point.x = grid.x tick := by
  simp only [Bus.straightAt, List.mem_cons, List.not_mem_nil, or_false] at membership
  rcases membership with rfl | rfl <;> rfl

namespace Timeline

variable {timeline : Timeline} {name : String}

theorem column_eq (declared : name ∈ timeline.lifelines.keys) :
    timeline.column name = (List.range timeline.tickCount).map fun tick =>
      (timeline.snapshot? name tick).getD Snapshot.initial := by
  refine List.ext_getElem (by simp [column, column?, declared, tickCount]) fun tick within _ => ?_
  have bound : tick < timeline.rows.length := by
    simpa [column, column?, declared] using within
  simp [column, column?, declared, snapshot?, List.getElem?_eq_getElem bound]

theorem states_column (declared : name ∈ timeline.lifelines.keys) :
    (timeline.column name).map Snapshot.state =
      (List.range timeline.tickCount).map (timeline.stateAt name) := by
  simp only [column_eq declared, List.map_map]
  rfl

theorem isChange_previousOf {tick : Nat} :
    isChange (previousOf (timeline.stateAt name) tick) (timeline.stateAt name tick) = true ↔
      timeline.ChangesAt name tick := by
  cases tick with
  | zero => simp [previousOf, isChange, ChangesAt]
  | succ tick => simp [previousOf, isChange, ChangesAt, ne_comm]

end Timeline

namespace LifelineBox

/-- A box offers the right number of points at each tick, and they stand at the tick. -/
structure Fits (timeline : Timeline) (grid : Grid α) (lifeline : Lifeline)
    (box : LifelineBox α) : Prop where
  name : box.name = lifeline.name
  ticks : box.attachments.length = timeline.tickCount
  points : ∀ tick points, box.attachments[tick]? = some points →
    points.length = timeline.attachmentCount lifeline tick ∧
      ∀ point ∈ points, point.x = grid.x tick

variable {timeline : Timeline} {lifeline : Lifeline}

theorem fits_of_range {grid : Grid α} {box : LifelineBox α} {points : Nat → List (Point α)}
    (named : box.name = lifeline.name)
    (offered : box.attachments = (List.range timeline.tickCount).map points)
    (counted : ∀ tick, (points tick).length = timeline.attachmentCount lifeline tick)
    (placed : ∀ tick, ∀ point ∈ points tick, point.x = grid.x tick) :
    Fits timeline grid lifeline box := by
  refine ⟨named, by simp [offered], ?_⟩
  intro tick found here
  rw [offered, List.getElem?_map] at here
  obtain ⟨reached, range, rfl⟩ := Option.map_eq_some_iff.mp here
  obtain ⟨-, rfl⟩ := List.getElem?_eq_some_iff.mp range
  rw [List.getElem_range]
  exact ⟨counted tick, placed tick⟩

variable {grid : Grid α} {box : LifelineBox α}

/-- A bus offers two points, and a single one where its rails meet. -/
theorem fits_withBus (declared : lifeline.name ∈ timeline.lifelines.keys)
    (named : box.name = lifeline.name) (simplified : lifeline.style = .simplified) :
    Fits timeline grid lifeline (box.withBus grid (timeline.column lifeline.name)) := by
  have offered : (box.withBus grid (timeline.column lifeline.name)).attachments =
      (List.range timeline.tickCount).map fun tick =>
        if timeline.ChangesAt lifeline.name tick then
          (Bus.crossingAt grid (busCentre box.bottom) tick).attachments
        else (Bus.straightAt grid (busCentre box.bottom) tick).attachments := by
    simp only [withBus, Timeline.states_column declared, stations_range, List.map_map,
      Function.comp_def, Timeline.isChange_previousOf, apply_ite Bus.Station.attachments]
  refine fits_of_range named offered (fun tick => ?_) fun tick point membership => ?_
  · simp only [Timeline.attachmentCount, simplified]
    split <;> rfl
  · split at membership
    · exact x_of_mem_crossingAt membership
    · exact x_of_mem_straightAt membership

/-- A staircase offers one point, and a second one where it steps. -/
theorem fits_withStaircase (declared : lifeline.name ∈ timeline.lifelines.keys)
    (named : box.name = lifeline.name) (rows : lifeline.style ≠ .simplified) :
    Fits timeline grid lifeline
      (box.withStaircase grid lifeline.states (timeline.column lifeline.name)) := by
  have offered :
      (box.withStaircase grid lifeline.states (timeline.column lifeline.name)).attachments =
        (List.range timeline.tickCount).map fun tick =>
          Staircase.cornersAt grid (rowY box.bottom) tick
            (previousOf (timeline.stateAt lifeline.name) tick)
            (timeline.stateAt lifeline.name tick) := by
    simp only [withStaircase, Timeline.states_column declared, corners_range]
  refine fits_of_range named offered (fun tick => ?_) fun tick point => x_of_mem_cornersAt
  rw [length_cornersAt]
  simp only [Timeline.isChange_previousOf, Timeline.attachmentCount]
  cases style : lifeline.style with
  | simplified => exact absurd style rows
  | normal | slice => rfl

theorem hasRow_iff {states : Catalog} {state : Nat} :
    hasRow states state = true ↔ states.Shows state := by
  simp [hasRow, Catalog.Shows, Catalog.isEmpty, Option.isSome_iff_exists]

/-- The first state without a row is the first of the faults. -/
theorem missingState?_eq (declared : lifeline.name ∈ timeline.lifelines.keys)
    (rows : lifeline.style ≠ .simplified) :
    (missingState? lifeline.states (timeline.column lifeline.name)).map
        (fun missing => LayoutFault.unknownState lifeline.name missing.1 missing.2) =
      (timeline.stateFaults lifeline).head? := by
  simp only [missingState?, Timeline.column_eq declared, zipIdx_map_range, List.findSome?_map,
    List.map_findSome?, Timeline.stateFaults, rows, ↓reduceIte, List.head?_filterMap]
  congr 1
  funext tick
  simp only [Function.comp_apply, hasRow_iff, apply_ite (Option.map _), Option.map_none,
    Option.map_some]
  rfl

theorem fault?_layout (declared : lifeline.name ∈ timeline.lifelines.keys) (top labelX : α) :
    fault? (LifelineBox.layout lifeline (timeline.column lifeline.name) grid top labelX) =
      (timeline.stateFaults lifeline).head? := by
  unfold LifelineBox.layout
  cases style : lifeline.style with
  | simplified => simp [Timeline.stateFaults, style]
  | normal | slice =>
      rw [← missingState?_eq declared (by simp [style])]
      cases missingState? lifeline.states (timeline.column lifeline.name) <;> rfl

/-- The boxes that a lifeline can be laid out to, by its style. -/
inductive Placed (lifeline : Lifeline) (column : List Snapshot) (grid : Grid α) (top labelX : α) :
    LifelineBox α → Prop where
  | bus (simplified : lifeline.style = .simplified) :
      Placed lifeline column grid top labelX ((frame lifeline grid top labelX).withBus grid column)
  | staircase (normal : lifeline.style = .normal)
      (rows : missingState? lifeline.states column = none) :
      Placed lifeline column grid top labelX
        ((frame lifeline grid top labelX).withStaircase grid lifeline.states column)
  | shaded (slice : lifeline.style = .slice)
      (rows : missingState? lifeline.states column = none) :
      Placed lifeline column grid top labelX
        (((frame lifeline grid top labelX).withStaircase grid lifeline.states column).withShading
          grid column)

theorem placed_of_layout {column : List Snapshot} {top labelX : α}
    (laidOut : LifelineBox.layout lifeline column grid top labelX = .ok box) :
    Placed lifeline column grid top labelX box := by
  unfold LifelineBox.layout at laidOut
  cases style : lifeline.style with
  | simplified =>
      simp only [style, Except.ok.injEq] at laidOut
      exact laidOut ▸ .bus style
  | normal =>
      cases missing : missingState? lifeline.states column with
      | some found => simp [style, missing] at laidOut
      | none =>
          simp only [style, missing, reduceCtorEq, ↓reduceIte, Except.ok.injEq] at laidOut
          exact laidOut ▸ .staircase style missing
  | slice =>
      cases missing : missingState? lifeline.states column with
      | some found => simp [style, missing] at laidOut
      | none =>
          simp only [style, missing, ↓reduceIte, Except.ok.injEq] at laidOut
          exact laidOut ▸ .shaded style missing

theorem Placed.fits (declared : lifeline.name ∈ timeline.lifelines.keys) {top labelX : α}
    (placed : Placed lifeline (timeline.column lifeline.name) grid top labelX box) :
    Fits timeline grid lifeline box := by
  cases placed with
  | bus simplified => exact fits_withBus declared rfl simplified
  | staircase normal => exact fits_withStaircase declared rfl (by simp [normal])
  | shaded slice =>
      have fits : Fits timeline grid lifeline ((frame lifeline grid top labelX).withStaircase grid
          lifeline.states (timeline.column lifeline.name)) :=
        fits_withStaircase declared rfl (by simp [slice])
      exact ⟨fits.name, fits.ticks, fits.points⟩

end LifelineBox

end Chronogram
