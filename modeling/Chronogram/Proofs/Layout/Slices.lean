import Chronogram.Proofs.Layout.Acceptance
import Chronogram.Proofs.Timeline.Repetition
import Mathlib.Data.List.Chain

/-!
Slices of observed time.

A sliced lifeline has a line at each of its observations, and between these lines and the last tick a
coloured slice wherever there is room for one. The slices tile the time from the first observation to
the last tick. As a state is carried forward until the next observation, each slice is one in which
the lifeline stays in the state that gives the slice its colour.
-/

namespace Chronogram

/-! ### Tiles between marks -/

/-- The stretches from each of some marks to the next one, and from the last one to an end. -/
def tiles : List Nat → Nat → List (Nat × Nat)
  | [], _ => []
  | [mark], last => if mark < last then [(mark, last)] else []
  | mark :: next :: rest, last => (mark, next) :: tiles (next :: rest) last

section Tiles

variable {marks : List Nat} {last : Nat}

theorem filter_zip_eq_tiles (rising : marks.Pairwise (· < ·)) :
    (marks.zip (marks.drop 1 ++ [last])).filter (fun tile => tile.1 < tile.2) =
      tiles marks last := by
  fun_induction tiles marks last with
  | case1 => rfl
  | case2 mark last room => simp [room]
  | case3 mark last full => simp [full]
  | case4 mark next rest last inductionHypothesis =>
      obtain ⟨before, risingRest⟩ := List.pairwise_cons.mp rising
      have room : mark < next := before next List.mem_cons_self
      have remaining := inductionHypothesis risingRest
      simp only [List.drop_succ_cons, List.drop_zero, List.cons_append, List.zip_cons_cons] at *
      rw [List.filter_cons_of_pos (by simpa using room), remaining]

theorem tiles_start (rising : marks.Pairwise (· < ·)) {tile : Nat × Nat}
    (membership : tile ∈ tiles marks last) : tile.1 < tile.2 ∧ tile.1 ∈ marks := by
  rw [← filter_zip_eq_tiles rising, List.mem_filter, decide_eq_true_iff] at membership
  exact ⟨membership.2, (List.of_mem_zip membership.1).1⟩

theorem tiles_end (rising : marks.Pairwise (· < ·)) (within : ∀ mark ∈ marks, mark ≤ last)
    {tile : Nat × Nat} (membership : tile ∈ tiles marks last) : tile.2 ≤ last := by
  rw [← filter_zip_eq_tiles rising] at membership
  rcases List.mem_append.mp (List.of_mem_zip (List.mem_of_mem_filter membership)).2 with mark | final
  · exact within tile.2 (List.mem_of_mem_drop mark)
  · exact Nat.le_of_eq (List.mem_singleton.mp final)

theorem tiles_between (rising : marks.Pairwise (· < ·)) {tile : Nat × Nat}
    (membership : tile ∈ tiles marks last) :
    ∀ mark ∈ marks, mark ≤ tile.1 ∨ tile.2 ≤ mark := by
  fun_induction tiles marks last with
  | case1 => simp at membership
  | case2 mark last room =>
      obtain rfl := List.mem_singleton.mp membership
      simp
  | case3 => simp at membership
  | case4 mark next rest last inductionHypothesis =>
      obtain ⟨before, risingRest⟩ := List.pairwise_cons.mp rising
      rcases List.mem_cons.mp membership with rfl | further
      · obtain ⟨behind, -⟩ := List.pairwise_cons.mp risingRest
        intro other stands
        rcases List.mem_cons.mp stands with rfl | stands
        · exact .inl (Nat.le_refl _)
        rcases List.mem_cons.mp stands with rfl | stands
        · exact .inr (Nat.le_refl _)
        · exact .inr (Nat.le_of_lt (behind other stands))
      · obtain ⟨-, starts⟩ := tiles_start risingRest further
        intro other stands
        rcases List.mem_cons.mp stands with rfl | stands
        · exact .inl (Nat.le_of_lt (before _ starts))
        · exact inductionHypothesis risingRest further other stands

theorem tiles_first {tile : Nat × Nat} (first : tile ∈ (tiles marks last).head?) :
    marks.head? = some tile.1 := by
  fun_induction tiles marks last with
  | case1 => simp at first
  | case2 mark last room =>
      obtain rfl := Option.some.inj first
      rfl
  | case3 => simp at first
  | case4 mark next rest last =>
      obtain rfl := Option.some.inj first
      rfl

theorem tiles_adjoin : (tiles marks last).IsChain fun tile next => tile.2 = next.1 := by
  fun_induction tiles marks last with
  | case1 => exact .nil
  | case2 => exact .singleton _
  | case3 => exact .nil
  | case4 mark next rest last inductionHypothesis =>
      apply List.isChain_cons.mpr
      refine ⟨?_, inductionHypothesis⟩
      intro tile first
      exact Option.some.inj (tiles_first first)

theorem tiles_eq_nil_iff (rising : marks.Pairwise (· < ·)) (within : ∀ mark ∈ marks, mark ≤ last) :
    tiles marks last = [] ↔ ∀ mark ∈ marks, mark = last := by
  fun_induction tiles marks last with
  | case1 => simp
  | case2 mark last room => simpa using Nat.ne_of_lt room
  | case3 mark last full =>
      have reached : mark ≤ last := within mark List.mem_cons_self
      simpa using Nat.le_antisymm reached (Nat.le_of_not_lt full)
  | case4 mark next rest last =>
      have room : mark < next := (List.pairwise_cons.mp rising).1 next List.mem_cons_self
      have reached : next ≤ last := within next (by simp)
      constructor
      · intro none
        cases none
      · intro equal
        exact absurd (equal mark List.mem_cons_self) (by omega)

/-- A tile starts at every mark except one at the end. -/
theorem starts_tiles (rising : marks.Pairwise (· < ·)) (within : ∀ mark ∈ marks, mark ≤ last) :
    (tiles marks last).map Prod.fst = marks.filter (· ≠ last) := by
  fun_induction tiles marks last with
  | case1 => rfl
  | case2 mark last room => simp [Nat.ne_of_lt room]
  | case3 mark last full =>
      have reached : mark ≤ last := within mark List.mem_cons_self
      simp [Nat.le_antisymm reached (Nat.le_of_not_lt full)]
  | case4 mark next rest last inductionHypothesis =>
      obtain ⟨before, risingRest⟩ := List.pairwise_cons.mp rising
      obtain ⟨-, withinRest⟩ := List.forall_mem_cons.mp within
      have room : mark < next := before next List.mem_cons_self
      have reached : next ≤ last := withinRest next List.mem_cons_self
      have early : mark ≠ last := by omega
      have remaining := inductionHypothesis risingRest withinRest
      rw [List.filter_cons, if_pos (decide_eq_true early), ← remaining]
      rfl

theorem tiles_last (rising : marks.Pairwise (· < ·)) (within : ∀ mark ∈ marks, mark ≤ last)
    {tile : Nat × Nat} (final : tile ∈ (tiles marks last).getLast?) : tile.2 = last := by
  fun_induction tiles marks last with
  | case1 => simp at final
  | case2 mark last room =>
      obtain rfl := Option.some.inj final
      rfl
  | case3 => simp at final
  | case4 mark next rest last inductionHypothesis =>
      obtain ⟨-, risingRest⟩ := List.pairwise_cons.mp rising
      obtain ⟨-, withinRest⟩ := List.forall_mem_cons.mp within
      by_cases none : tiles (next :: rest) last = []
      · -- There is no room behind the next mark, so it is the end itself.
        rw [none] at final
        obtain rfl := Option.some.inj final
        exact (tiles_eq_nil_iff risingRest withinRest).mp none next List.mem_cons_self
      · rw [List.getLast?_cons_of_ne_nil none] at final
        exact inductionHypothesis risingRest withinRest final

/-- From the first mark on, a moment before the end lies in exactly one tile. -/
theorem countP_tiles {mark : Nat} {rest : List Nat} (rising : (mark :: rest).Pairwise (· < ·))
    {moment : Nat} (early : moment < last) :
    (tiles (mark :: rest) last).countP (fun tile => tile.1 ≤ moment ∧ moment < tile.2) =
      if mark ≤ moment then 1 else 0 := by
  induction rest generalizing mark with
  | nil =>
      by_cases room : mark < last
      · by_cases reached : mark ≤ moment <;> simp [tiles, room, reached, early]
      · have later : ¬mark ≤ moment := by omega
        simp [tiles, room, later]
  | cons next rest inductionHypothesis =>
      obtain ⟨before, risingRest⟩ := List.pairwise_cons.mp rising
      have room : mark < next := before next List.mem_cons_self
      rw [tiles, List.countP_cons, inductionHypothesis risingRest]
      by_cases inside : moment < next
      · have later : ¬next ≤ moment := by omega
        simp [inside, later]
      · have reached : mark ≤ moment ∧ next ≤ moment := by omega
        simp [inside, reached]

end Tiles

/-! ### Observations -/

namespace Timeline

/-- Whether a lifeline was observed at a tick. -/
def ObservedAt (timeline : Timeline) (name : String) (tick : Nat) : Prop :=
  ∃ state, timeline.snapshot? name tick = some ⟨state, true⟩

theorem significant_iff_observedAt {timeline : Timeline} {name : String} {tick : Nat} :
    ((timeline.snapshot? name tick).getD Snapshot.initial).significant = true ↔
      timeline.ObservedAt name tick := by
  unfold ObservedAt
  rcases timeline.snapshot? name tick with _ | ⟨state, mark⟩
  · simp [Snapshot.initial]
  · simp

instance (timeline : Timeline) (name : String) (tick : Nat) :
    Decidable (timeline.ObservedAt name tick) :=
  decidable_of_iff _ significant_iff_observedAt

/-- The ticks at which a lifeline was observed, in order. -/
def observations (timeline : Timeline) (name : String) : List Nat :=
  (List.range timeline.tickCount).filter fun tick => timeline.ObservedAt name tick

theorem observations_rising (timeline : Timeline) (name : String) :
    (timeline.observations name).Pairwise (· < ·) :=
  List.pairwise_lt_range.filter _

theorem mem_observations {timeline : Timeline} {name : String} {tick : Nat} :
    tick ∈ timeline.observations name ↔
      tick < timeline.tickCount ∧ timeline.ObservedAt name tick := by
  simp [observations]

variable {diagram : Diagram} {name : String} {tick : Nat}

theorem column_of_undeclared (undeclared : name ∉ diagram.lifelines.keys) :
    diagram.timeline.column name = [] := by
  rw [column, (column?_eq_none_iff diagram name).mpr undeclared, Option.getD_none]

theorem snapshot?_of_lt (declared : name ∈ diagram.lifelines.keys)
    (within : tick < diagram.timeline.tickCount) :
    diagram.timeline.snapshot? name tick = some (diagram.snapshotAt name tick) := by
  have shown : tick < diagram.rows.length := within
  rw [snapshot?_eq, column?_eq_some diagram name declared, Option.bind_some, List.getElem?_map,
    List.getElem?_range shown, Option.map_some]

theorem ObservedAt.declared (observed : diagram.timeline.ObservedAt name tick) :
    name ∈ diagram.lifelines.keys ∧ tick < diagram.timeline.tickCount := by
  obtain ⟨state, found⟩ := observed
  constructor
  · by_contra undeclared
    rw [snapshot?_eq, (column?_eq_none_iff diagram name).mpr undeclared] at found
    cases found
  · by_contra beyond
    have missing : diagram.rows[tick]? = none :=
      List.getElem?_eq_none_iff.mpr (Nat.le_of_not_lt beyond)
    rw [snapshot?_of_none diagram name tick missing] at found
    cases found

/-- Without an observation the state of the tick before is carried forward. -/
theorem stateAt_of_unobserved (declared : name ∈ diagram.lifelines.keys)
    (within : tick + 1 < diagram.timeline.tickCount)
    (unobserved : ¬diagram.timeline.ObservedAt name (tick + 1)) :
    diagram.timeline.stateAt name (tick + 1) = diagram.timeline.stateAt name tick := by
  have here := snapshot?_of_lt declared within
  have before := snapshot?_of_lt declared (Nat.lt_of_succ_lt within)
  have missing : diagram.observed? name (tick + 1) = none := by
    cases found : diagram.observed? name (tick + 1) with
    | none => rfl
    | some state =>
        rw [diagram.snapshotAt_of_observed name _ found] at here
        exact absurd ⟨state, here⟩ unobserved
  rw [stateAt, stateAt, here, before, diagram.snapshotAt_of_unobserved name _ missing]
  exact diagram.stateBefore_succ name tick

theorem stateAt_between {first next : Nat} (declared : name ∈ diagram.lifelines.keys)
    (within : next ≤ diagram.timeline.tickCount)
    (unobserved : ∀ tick, diagram.timeline.ObservedAt name tick → tick ≤ first ∨ next ≤ tick)
    (behind : first ≤ tick) (before : tick < next) :
    diagram.timeline.stateAt name tick = diagram.timeline.stateAt name first := by
  induction tick, behind using Nat.le_induction with
  | base => rfl
  | succ tick behind inductionHypothesis =>
      have quiet : ¬diagram.timeline.ObservedAt name (tick + 1) := by
        intro observed
        rcases unobserved _ observed with early | late <;> omega
      rw [stateAt_of_unobserved declared (by omega) quiet]
      exact inductionHypothesis (by omega)

end Timeline

/-! ### Shades -/

theorem observedTicks_range (snapshot : Nat → Snapshot) (count : Nat) :
    observedTicks ((List.range count).map snapshot) =
      ((List.range count).filter fun tick => (snapshot tick).significant).map
        fun tick => (tick, (snapshot tick).state) := by
  rw [observedTicks, zipIdx_map_range, List.filterMap_map, ← List.filterMap_eq_map,
    List.filterMap_filter]
  rfl

theorem observedTicks_column (diagram : Diagram) (name : String) :
    observedTicks (diagram.timeline.column name) =
      (diagram.timeline.observations name).map fun tick =>
        (tick, diagram.timeline.stateAt name tick) := by
  by_cases declared : name ∈ diagram.lifelines.keys
  · have known : name ∈ diagram.timeline.lifelines.keys := declared
    rw [Timeline.column_eq known, observedTicks_range, Timeline.observations]
    congr 1
    refine List.filter_congr fun tick _ => ?_
    rw [Bool.eq_iff_iff, decide_eq_true_iff]
    exact Timeline.significant_iff_observedAt
  · have none : diagram.timeline.observations name = [] := by
      refine List.filter_eq_nil_iff.mpr fun tick _ observed => ?_
      exact declared (Timeline.ObservedAt.declared (of_decide_eq_true observed)).1
    rw [Timeline.column_of_undeclared declared, none]
    rfl

variable {α : Type} [Scalar α]

/-- The coloured slice of a tile. -/
def Shade.ofTile (grid : Grid α) (top height : α) (stateAt : Nat → Nat) (tile : Nat × Nat) :
    Shade α where
  fromTick := tile.1
  toTick := tile.2
  state := stateAt tile.1
  origin := ⟨grid.x tile.1, top⟩
  size := ⟨grid.x tile.2 - grid.x tile.1, height⟩
  fill := fillOf (stateAt tile.1)

theorem filterMap_slices {β : Type} (f : Nat × Nat × Nat → β) {column : List Snapshot}
    {marks : List Nat} {stateAt : Nat → Nat} (rising : marks.Pairwise (· < ·))
    (observed : observedTicks column = marks.map fun tick => (tick, stateAt tick)) :
    ((slices column).filterMap fun slice => if slice.1 < slice.2.1 then some (f slice) else none) =
      (tiles marks (column.length - 1)).map fun tile => f (tile.1, tile.2, stateAt tile.1) := by
  have ends : ((marks.map fun tick => (tick, stateAt tick)).drop 1).map Prod.fst =
      marks.drop 1 := by
    rw [List.map_drop, List.map_map]
    exact congrArg (List.drop 1) (List.map_id _)
  rw [slices, observed, ends, List.zip_map_left, List.map_map, List.filterMap_map,
    ← filter_zip_eq_tiles rising, ← List.filterMap_eq_map, List.filterMap_filter]
  refine List.filterMap_congr fun tile _ => ?_
  simp

theorem filterMap_slices_column {β : Type} (f : Nat × Nat × Nat → β) (diagram : Diagram)
    (name : String) :
    ((slices (diagram.timeline.column name)).filterMap fun slice =>
        if slice.1 < slice.2.1 then some (f slice) else none) =
      (tiles (diagram.timeline.observations name) (diagram.timeline.tickCount - 1)).map
        fun tile => f (tile.1, tile.2, diagram.timeline.stateAt name tile.1) := by
  rw [filterMap_slices f (diagram.timeline.observations_rising name)
    (observedTicks_column diagram name)]
  by_cases declared : name ∈ diagram.lifelines.keys
  · have known : name ∈ diagram.timeline.lifelines.keys := declared
    rw [Timeline.column_eq known, List.length_map, List.length_range]
  · have none : diagram.timeline.observations name = [] := by
      have unobserved := observedTicks_column diagram name
      rw [Timeline.column_of_undeclared declared] at unobserved
      exact List.map_eq_nil_iff.mp unobserved.symm
    rw [none]
    rfl

theorem shades_column (grid : Grid α) (top height : α) (diagram : Diagram) (name : String) :
    shades grid top height (diagram.timeline.column name) =
      (tiles (diagram.timeline.observations name) (diagram.timeline.tickCount - 1)).map
        (Shade.ofTile grid top height (diagram.timeline.stateAt name)) :=
  filterMap_slices_column (fun slice : Nat × Nat × Nat =>
    Shade.ofTile grid top height (fun _ => slice.2.2) (slice.1, slice.2.1)) diagram name

theorem getElem?_palette (state : Nat) : palette[state % 8]? = some (fillOf state) :=
  List.getElem?_eq_getElem _

section Column

variable {diagram : Diagram} {name : String} {grid : Grid α} {top height : α}

theorem observations_le_last :
    ∀ mark ∈ diagram.timeline.observations name, mark ≤ diagram.timeline.tickCount - 1 := by
  intro mark membership
  exact Nat.le_sub_one_of_lt (Timeline.mem_observations.mp membership).1

/-- Every slice is made of a tile, and tiles start at observations. -/
theorem exists_tile_of_mem_shades {shade : Shade α}
    (membership : shade ∈ shades grid top height (diagram.timeline.column name)) :
    ∃ tile ∈ tiles (diagram.timeline.observations name) (diagram.timeline.tickCount - 1),
      Shade.ofTile grid top height (diagram.timeline.stateAt name) tile = shade ∧
        tile.1 < tile.2 ∧ diagram.timeline.ObservedAt name tile.1 := by
  rw [shades_column] at membership
  obtain ⟨tile, stands, same⟩ := List.mem_map.mp membership
  obtain ⟨room, starts⟩ := tiles_start (diagram.timeline.observations_rising name) stands
  exact ⟨tile, stands, same, room, (Timeline.mem_observations.mp starts).2⟩

theorem fromTick_le_of_observedAt {shade : Shade α}
    (first : shade ∈ (shades grid top height (diagram.timeline.column name)).head?) {tick : Nat}
    (observed : diagram.timeline.ObservedAt name tick) : shade.fromTick ≤ tick := by
  rw [shades_column, List.head?_map] at first
  obtain ⟨tile, firstTile, rfl⟩ := Option.map_eq_some_iff.mp first
  obtain ⟨rest, split⟩ := List.head?_eq_some_iff.mp (tiles_first firstTile)
  have rising := diagram.timeline.observations_rising name
  have marked : tick ∈ diagram.timeline.observations name :=
    Timeline.mem_observations.mpr ⟨observed.declared.2, observed⟩
  rw [split] at rising marked
  rcases List.mem_cons.mp marked with rfl | later
  · exact Nat.le_refl _
  · exact Nat.le_of_lt ((List.pairwise_cons.mp rising).1 tick later)

theorem toTick_of_getLast? {shade : Shade α}
    (final : shade ∈ (shades grid top height (diagram.timeline.column name)).getLast?) :
    shade.toTick + 1 = diagram.timeline.tickCount := by
  obtain ⟨_, _, _, _, observed⟩ := exists_tile_of_mem_shades (List.mem_of_mem_getLast? final)
  have reached := observed.declared.2
  rw [shades_column, List.getLast?_map] at final
  obtain ⟨tile, finalTile, rfl⟩ := Option.map_eq_some_iff.mp final
  have ends : tile.2 = diagram.timeline.tickCount - 1 :=
    tiles_last (diagram.timeline.observations_rising name) observations_le_last finalTile
  change tile.2 + 1 = diagram.timeline.tickCount
  omega

theorem shades_eq_nil_iff :
    shades grid top height (diagram.timeline.column name) = [] ↔
      ∀ tick, diagram.timeline.ObservedAt name tick → tick + 1 = diagram.timeline.tickCount := by
  rw [shades_column, List.map_eq_nil_iff,
    tiles_eq_nil_iff (diagram.timeline.observations_rising name) observations_le_last]
  constructor
  · intro equal tick observed
    have reached := observed.declared.2
    have atEnd := equal tick (Timeline.mem_observations.mpr ⟨reached, observed⟩)
    omega
  · intro equal mark membership
    have atEnd := equal mark (Timeline.mem_observations.mp membership).2
    omega

theorem countP_shades {tick first : Nat} (early : tick + 1 < diagram.timeline.tickCount)
    (before : first ≤ tick) (observed : diagram.timeline.ObservedAt name first) :
    (shades grid top height (diagram.timeline.column name)).countP
      (fun shade => shade.fromTick ≤ tick ∧ tick < shade.toTick) = 1 := by
  have rising := diagram.timeline.observations_rising name
  have marked : first ∈ diagram.timeline.observations name :=
    Timeline.mem_observations.mpr ⟨observed.declared.2, observed⟩
  have inTime : tick < diagram.timeline.tickCount - 1 := by omega
  rw [shades_column, List.countP_map]
  cases marks : diagram.timeline.observations name with
  | nil => simp [marks] at marked
  | cons mark rest =>
      rw [marks] at rising marked
      have reached : mark ≤ tick := by
        rcases List.mem_cons.mp marked with rfl | later
        · exact before
        · exact Nat.le_trans (Nat.le_of_lt ((List.pairwise_cons.mp rising).1 first later)) before
      have counted := countP_tiles rising inTime
      rw [if_pos reached] at counted
      exact counted

/-- Through a slice the lifeline stays in the state of the slice. -/
theorem state_of_mem_shades {shade : Shade α}
    (membership : shade ∈ shades grid top height (diagram.timeline.column name)) {tick : Nat}
    (behind : shade.fromTick ≤ tick) (before : tick < shade.toTick) :
    (diagram.timeline.snapshot? name tick).map Snapshot.state = some shade.state := by
  obtain ⟨tile, stands, rfl, room, observed⟩ := exists_tile_of_mem_shades membership
  have rising := diagram.timeline.observations_rising name
  obtain ⟨declared, reached⟩ := observed.declared
  have ends := tiles_end rising observations_le_last stands
  have unobserved : ∀ tick, diagram.timeline.ObservedAt name tick →
      tick ≤ tile.1 ∨ tile.2 ≤ tick := by
    intro tick observed
    exact tiles_between rising stands tick
      (Timeline.mem_observations.mpr ⟨observed.declared.2, observed⟩)
  have within : tick < diagram.timeline.tickCount := by
    change tick < tile.2 at before
    omega
  have stays := Timeline.stateAt_between declared (by omega) unobserved behind before
  have shown := Timeline.snapshot?_of_lt declared within
  rw [Timeline.stateAt, shown] at stays
  rw [shown]
  exact congrArg some stays

end Column

namespace LifelineBox

/-- Lines at the observations of a lifeline, and slices that tile the time from the first of them to
the last tick. -/
structure Tiles (timeline : Timeline) (name : String) (grid : Grid α) (box : LifelineBox α) :
    Prop where
  separators : box.separators = (timeline.observations name).map fun tick =>
    ⟨⟨grid.x tick, box.top⟩, ⟨grid.x tick, box.bottom⟩⟩
  start : ∀ shade ∈ box.shades,
    shade.fromTick < shade.toTick ∧ timeline.ObservedAt name shade.fromTick
  adjoin : box.shades.IsChain fun shade next => shade.toTick = next.fromTick
  first : ∀ shade ∈ box.shades.head?, ∀ tick,
    timeline.ObservedAt name tick → shade.fromTick ≤ tick
  last : ∀ shade ∈ box.shades.getLast?, shade.toTick + 1 = timeline.tickCount
  empty : box.shades = [] ↔ ∀ tick, timeline.ObservedAt name tick → tick + 1 = timeline.tickCount
  once : ∀ tick, tick + 1 < timeline.tickCount →
    (∃ observed ≤ tick, timeline.ObservedAt name observed) →
      box.shades.countP (fun shade => shade.fromTick ≤ tick ∧ tick < shade.toTick) = 1
  notBefore : ∀ tick, (∀ observed ≤ tick, ¬timeline.ObservedAt name observed) →
    ∀ shade ∈ box.shades, tick < shade.fromTick
  place : ∀ shade ∈ box.shades, shade.origin = ⟨grid.x shade.fromTick, box.top⟩ ∧
    shade.size = ⟨grid.x shade.toTick - grid.x shade.fromTick, box.height⟩
  state : ∀ shade ∈ box.shades, ∀ tick, shade.fromTick ≤ tick → tick < shade.toTick →
    (timeline.snapshot? name tick).map Snapshot.state = some shade.state
  fill : ∀ shade ∈ box.shades, palette[shade.state % 8]? = some shade.fill

theorem tiles_withShading (diagram : Diagram) (name : String) (grid : Grid α)
    (box : LifelineBox α) :
    Tiles diagram.timeline name grid
      (box.withShading grid (diagram.timeline.column name)) where
  separators := by
    have lines : Chronogram.separators grid box.top box.bottom (diagram.timeline.column name) =
        (diagram.timeline.observations name).map fun tick =>
          ⟨⟨grid.x tick, box.top⟩, ⟨grid.x tick, box.bottom⟩⟩ := by
      rw [Chronogram.separators, observedTicks_column, List.map_map]
      rfl
    exact lines
  start := by
    intro shade membership
    obtain ⟨tile, -, rfl, room, observed⟩ := exists_tile_of_mem_shades membership
    exact ⟨room, observed⟩
  adjoin := by
    have chained : (Chronogram.shades grid box.top box.height (diagram.timeline.column name)).IsChain
        fun shade next => shade.toTick = next.fromTick := by
      rw [shades_column, List.isChain_map]
      exact tiles_adjoin
    exact chained
  first := fun _ first _ => fromTick_le_of_observedAt first
  last := fun _ => toTick_of_getLast?
  empty := shades_eq_nil_iff
  once := fun _ early ⟨_, before, observed⟩ => countP_shades early before observed
  notBefore := by
    intro tick unobserved shade membership
    obtain ⟨tile, -, rfl, -, observed⟩ := exists_tile_of_mem_shades membership
    exact Nat.lt_of_not_le fun reached => unobserved tile.1 reached observed
  place := by
    intro shade membership
    obtain ⟨tile, -, rfl, -⟩ := exists_tile_of_mem_shades membership
    exact ⟨rfl, rfl⟩
  state := fun _ membership _ => state_of_mem_shades membership
  fill := by
    intro shade membership
    obtain ⟨tile, -, rfl, -⟩ := exists_tile_of_mem_shades membership
    exact getElem?_palette _

end LifelineBox

/-- The slices of a sliced lifeline tile its observed time. One line stands at each observation; the
slices follow one another without gaps from the first observation to the last tick, so that each
interval behind the first observation lies in exactly one of them and each one before it in none; and
through a slice the lifeline stays in the state whose colour the slice has. -/
theorem slices_tile_observed_time (measurer : Measurer α) (diagram : Diagram) {page : Page α}
    (laidOut : Page.layout measurer diagram.timeline = .ok page) :
    List.Forall₂ (fun lifeline box => lifeline.style = .slice →
      LifelineBox.Tiles diagram.timeline lifeline.name page.grid box)
      diagram.timeline.lifelines.values page.lifelines := by
  apply (Page.shows_of_layout laidOut).lifelines.imp
  rintro lifeline box ⟨top, placed⟩ sliced
  cases placed with
  | bus simplified => simp [simplified] at sliced
  | staircase normal => simp [normal] at sliced
  | shaded => exact LifelineBox.tiles_withShading diagram lifeline.name page.grid _

/-- A sliced lifeline that is first observed at tick 1 and outlived by another one. -/
def napDiagram : Diagram where
  title := "Afternoon"
  config := Config.standard
  lifelines :=
    ⟨[("cat", ⟨"cat", .slice, ⟨[some "asleep", some "awake"]⟩⟩),
      ("dog", ⟨"dog", .normal, ⟨[]⟩⟩)], by decide⟩
  ticks := [⟨3, "cat", 0⟩, ⟨1, "cat", 1⟩, ⟨5, "dog", 0⟩]
  spans := []
  arrows := []

theorem napDiagram_is_sliced :
    ∃ page, Page.layout FontMetrics.standard.measurer napDiagram.timeline = .ok page ∧
      List.Forall₂ (fun lifeline box => lifeline.style = .slice →
        LifelineBox.Tiles napDiagram.timeline lifeline.name page.grid box)
        napDiagram.timeline.lifelines.values page.lifelines := by
  have named : ∀ entry ∈ napDiagram.timeline.lifelines.entries, entry.2.name = entry.1 := by
    decide +kernel
  have fine : napDiagram.timeline.faults = [] := by decide +kernel
  have accepted :
      ∃ page, Page.layout FontMetrics.standard.measurer napDiagram.timeline = .ok page :=
    Page.exists_layout named fine
  obtain ⟨page, laidOut⟩ := accepted
  exact ⟨page, laidOut, slices_tile_observed_time FontMetrics.standard.measurer napDiagram laidOut⟩

end Chronogram
