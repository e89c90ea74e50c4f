import Chronogram.Proofs.Layout.Slices

/-!
The ticks that a legend names.

A legend takes its ticks either from the clock or from the observations of the first lifeline. In
the second case it looks at marks in the dense rows; these stand exactly where the list of
observations has one, however often and in whatever order it has them.
-/

namespace Chronogram

namespace Diagram

/-- Whether a diagram has an observation of a lifeline at a time. -/
def Observes (diagram : Diagram) (name : String) (time : Nat) : Prop :=
  ∃ tick ∈ diagram.ticks, tick.time = time ∧ tick.lifeline = name

variable {diagram : Diagram} {name : String} {time : Nat}

theorem exists_observed?_iff :
    (∃ state, diagram.observed? name time = some state) ↔ diagram.Observes name time := by
  rw [← Option.ne_none_iff_exists', ne_eq, observed?_eq_none_iff]
  simp [Observes]

theorem Observes.lt_tickCount (observed : diagram.Observes name time) :
    time < diagram.timeline.tickCount := by
  obtain ⟨tick, listed, rfl, -⟩ := observed
  have reached : tick.time < diagram.timeCount :=
    diagram.lt_timeCount_iff.mpr ⟨tick, listed, Nat.le_refl _⟩
  rwa [Timeline.tickCount, show diagram.timeline.rows = diagram.rows from rfl, rows_eq,
    List.length_map, List.length_range]

/-- A declared lifeline is marked exactly where it has an observation. -/
theorem observedAt_iff (declared : name ∈ diagram.lifelines.keys) :
    diagram.timeline.ObservedAt name time ↔ diagram.Observes name time := by
  constructor
  · rintro ⟨state, shown⟩
    have within := (Timeline.ObservedAt.declared ⟨state, shown⟩).2
    rw [Timeline.snapshot?_of_lt declared within, Option.some.injEq] at shown
    cases found : diagram.observed? name time with
    | some state => exact exists_observed?_iff.mp ⟨state, found⟩
    | none =>
        rw [diagram.snapshotAt_of_unobserved name time found] at shown
        cases shown
  · intro observed
    obtain ⟨state, found⟩ := exists_observed?_iff.mpr observed
    refine ⟨state, ?_⟩
    rw [Timeline.snapshot?_of_lt declared observed.lt_tickCount,
      diagram.snapshotAt_of_observed name time found]

end Diagram

namespace Timeline

variable {timeline : Timeline}

theorem legendTicks_byFrequency (mode : timeline.config.legendMode = .byFrequency) :
    timeline.legendTicks = (List.range timeline.tickCount).filter fun tick =>
      max timeline.config.legendFrequency 1 ∣ tick := by
  simp only [legendTicks, mode, Nat.dvd_iff_mod_eq_zero]
  exact List.filter_congr fun _ _ => rfl

/-- The marks of the first lifeline are its observations. -/
theorem legendTicks_onlySignificant (mode : timeline.config.legendMode = .onlySignificant) :
    timeline.legendTicks =
      (timeline.lifelines.keys.head?.map timeline.observations).getD [] := by
  simp only [legendTicks, mode, firstColumn]
  cases keys : timeline.lifelines.keys with
  | nil => rfl
  | cons name others =>
      have declared : name ∈ timeline.lifelines.keys := keys ▸ List.mem_cons_self
      change ((timeline.column name).zipIdx.filter fun entry => entry.1.significant).map Prod.snd =
        timeline.observations name
      rw [column_eq declared, zipIdx_map_range, List.filter_map, List.map_map, observations]
      change ((List.range timeline.tickCount).filter _).map id = _
      rw [List.map_id]
      refine List.filter_congr fun tick _ => ?_
      rw [Bool.eq_iff_iff, decide_eq_true_iff]
      exact significant_iff_observedAt

theorem legendTicks_rising (timeline : Timeline) : timeline.legendTicks.Pairwise (· < ·) := by
  cases mode : timeline.config.legendMode with
  | byFrequency =>
      rw [legendTicks_byFrequency mode]
      exact List.pairwise_lt_range.filter _
  | onlySignificant =>
      rw [legendTicks_onlySignificant mode]
      cases timeline.lifelines.keys.head? with
      | none => exact .nil
      | some name => exact timeline.observations_rising name

theorem mem_legendTicks_byFrequency (mode : timeline.config.legendMode = .byFrequency)
    {tick : Nat} : tick ∈ timeline.legendTicks ↔
      tick < timeline.tickCount ∧ max timeline.config.legendFrequency 1 ∣ tick := by
  simp [legendTicks_byFrequency mode]

theorem mem_legendTicks_onlySignificant {diagram : Diagram}
    (mode : diagram.config.legendMode = .onlySignificant) {tick : Nat} :
    tick ∈ diagram.timeline.legendTicks ↔
      ∃ name, diagram.lifelines.keys.head? = some name ∧ diagram.Observes name tick := by
  rw [legendTicks_onlySignificant mode]
  change tick ∈ (diagram.lifelines.keys.head?.map diagram.timeline.observations).getD [] ↔ _
  cases first : diagram.lifelines.keys.head? with
  | none => simp
  | some name =>
      have declared : name ∈ diagram.lifelines.keys := List.mem_of_head? first
      simp only [Option.map_some, Option.getD_some, mem_observations,
        Diagram.observedAt_iff declared, Option.some.injEq, exists_eq_left']
      exact and_iff_right_of_imp Diagram.Observes.lt_tickCount

end Timeline

variable {α : Type} [Scalar α]

/-- A legend that names the ticks that its diagram asks for, each at its place. -/
structure Legend.Names (diagram : Diagram) (grid : Grid α) (legend : Legend α) : Prop where
  rising : (legend.entries.map LegendEntry.tick).Pairwise (· < ·)
  place : ∀ entry ∈ legend.entries, entry.position = ⟨grid.x entry.tick, legend.y⟩
  regular : diagram.config.legendMode = .byFrequency → ∀ tick,
    tick ∈ legend.entries.map LegendEntry.tick ↔
      tick < grid.tickCount ∧ max diagram.config.legendFrequency 1 ∣ tick
  significant : diagram.config.legendMode = .onlySignificant → ∀ tick,
    tick ∈ legend.entries.map LegendEntry.tick ↔
      ∃ name, diagram.lifelines.keys.head? = some name ∧ diagram.Observes name tick

namespace Legend

theorem ticks_layout (timeline : Timeline) (grid : Grid α) (y : α) :
    (layout timeline grid y).entries.map LegendEntry.tick = timeline.legendTicks := by
  rw [layout, List.map_map]
  exact List.map_id _

theorem names_layout (diagram : Diagram) {grid : Grid α}
    (sameCount : grid.tickCount = diagram.timeline.tickCount) (y : α) :
    (layout diagram.timeline grid y).Names diagram grid := by
  constructor
  · rw [ticks_layout]
    exact diagram.timeline.legendTicks_rising
  · intro entry membership
    obtain ⟨tick, -, rfl⟩ := List.mem_map.mp membership
    rfl
  · intro mode tick
    rw [ticks_layout, sameCount]
    exact Timeline.mem_legendTicks_byFrequency mode
  · intro mode tick
    rw [ticks_layout]
    exact Timeline.mem_legendTicks_onlySignificant mode

end Legend

/-- The legend names the right ticks, each once, in order and at its place: either all ticks at
which a number of ticks has gone by, or the times for which the diagram lists an observation of its
first lifeline. -/
theorem legend_names_asked_ticks (measurer : Measurer α) (diagram : Diagram) {page : Page α}
    (laidOut : Page.layout measurer diagram.timeline = .ok page) :
    page.tickCount = diagram.rows.length ∧ page.legend.Names diagram page.grid := by
  have shows := Page.shows_of_layout laidOut
  obtain ⟨y, placed⟩ := shows.legend
  refine ⟨shows.tickCount, ?_⟩
  rw [placed]
  exact Legend.names_layout diagram shows.tickCount y

/-- The guard is observed late, twice at one time, and in no order; another lifeline is observed
before and after. -/
def watchDiagram : Diagram where
  title := "Watch"
  config := { Config.standard with legendMode := .onlySignificant, legendFrequency := 3 }
  lifelines :=
    ⟨[("guard", ⟨"guard", .slice, ⟨[some "away", some "here"]⟩⟩),
      ("gate", ⟨"gate", .simplified, ⟨[]⟩⟩)], by decide⟩
  ticks := [⟨4, "guard", 1⟩, ⟨0, "gate", 7⟩, ⟨2, "guard", 0⟩, ⟨6, "gate", 0⟩, ⟨2, "guard", 1⟩]
  spans := []
  arrows := []

theorem watchDiagram_names_guard :
    ∃ page, Page.layout FontMetrics.standard.measurer watchDiagram.timeline = .ok page ∧
      page.legend.entries.map LegendEntry.tick = [2, 4] ∧
      page.tickCount = watchDiagram.rows.length ∧ page.legend.Names watchDiagram page.grid := by
  have named : ∀ entry ∈ watchDiagram.timeline.lifelines.entries, entry.2.name = entry.1 := by
    decide +kernel
  have fine : watchDiagram.timeline.faults = [] := by decide +kernel
  have accepted :
      ∃ page, Page.layout FontMetrics.standard.measurer watchDiagram.timeline = .ok page :=
    Page.exists_layout named fine
  obtain ⟨page, laidOut⟩ := accepted
  have ticks : page.legend.entries.map LegendEntry.tick = [2, 4] := by
    obtain ⟨y, placed⟩ := (Page.shows_of_layout laidOut).legend
    rw [placed, Legend.ticks_layout]
    decide +kernel
  refine ⟨page, laidOut, ticks, ?_⟩
  exact legend_names_asked_ticks FontMetrics.standard.measurer watchDiagram laidOut

end Chronogram
