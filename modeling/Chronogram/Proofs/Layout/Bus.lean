import Chronogram.Proofs.Exact
import Chronogram.Proofs.Layout.Acceptance
import Chronogram.Proofs.Layout.Change
import Mathlib.Data.List.Flatten

/-!
Buses.

The rails of a bus have as many points, at the same horizontal positions, and they meet at the changes
only. In front of a change and behind it they need room to close and to open again. They take at most
half a tick width on either side, so even where one change follows the other, neither rail ever runs
backwards.
-/

namespace Chronogram

variable {α : Type} [Scalar α] {grid : Grid α} {centre : α} {states : List Nat} {tick : Nat}

theorem zip_flatMap {β γ δ : Type} (values : List β) (f : β → List γ) (g : β → List δ)
    (same : ∀ value, (f value).length = (g value).length) :
    (values.flatMap f).zip (values.flatMap g) = values.flatMap fun value => (f value).zip (g value) := by
  induction values with
  | nil => rfl
  | cons value rest inductionHypothesis =>
      rw [List.flatMap_cons, List.flatMap_cons, List.flatMap_cons, List.zip_append (same value),
        inductionHypothesis]

namespace Bus

def stationAt (grid : Grid α) (centre : α) (states : List Nat) (tick : Nat) : Station α :=
  if isChange (previousOf (stateIn states) tick) (stateIn states tick) then
    crossingAt grid centre tick
  else straightAt grid centre tick

theorem stations_eq (grid : Grid α) (centre : α) (states : List Nat) :
    stations grid centre states =
      (List.range states.length).map (stationAt grid centre states) := by
  have described := stations_range grid centre (stateIn states) states.length
  rwa [map_stateIn_range] at described

theorem stationAt_of_mem_changes (changed : tick ∈ changes states) :
    stationAt grid centre states tick = crossingAt grid centre tick := by
  have within : tick < states.length := List.mem_range.mp (List.mem_filter.mp changed).1
  exact if_pos ((mem_changes_iff_isChange within).mp changed)

theorem stationAt_of_not_mem_changes (within : tick < states.length)
    (unchanged : tick ∉ changes states) :
    stationAt grid centre states tick = straightAt grid centre tick :=
  if_neg (mt (mem_changes_iff_isChange within).mpr unchanged)

/-- What holds at a change and without one holds at every tick. -/
theorem stationAt_cases (property : Station α → Prop)
    (crossing : property (crossingAt grid centre tick))
    (straight : property (straightAt grid centre tick)) :
    property (stationAt grid centre states tick) := by
  unfold stationAt
  split
  · exact crossing
  · exact straight

theorem flatMap_stations {β : Type} (side : Station α → List β) :
    (stations grid centre states).flatMap side =
      (List.range states.length).flatMap fun tick => side (stationAt grid centre states tick) := by
  rw [stations_eq, List.flatMap_map]

/-! ### Rails -/

/-- Rails that keep their distance from the centre line and meet on it at the changes. -/
structure Rails (states : List Nat) (grid : Grid α) (centre : α) (upper lower : List (Point α)) :
    Prop where
  upperCount : upper.length = states.length + 2 * (changes states).length
  lowerCount : lower.length = states.length + 2 * (changes states).length
  level : lower.map Point.x = upper.map Point.x
  meet : ((changes states).map fun tick =>
    ((⟨grid.x tick, centre⟩, ⟨grid.x tick, centre⟩) : Point α × Point α)).Sublist (upper.zip lower)
  apart : ∀ pair ∈ upper.zip lower,
    (∃ tick ∈ changes states, pair = (⟨grid.x tick, centre⟩, ⟨grid.x tick, centre⟩)) ∨
      pair.1.y = centre - px halfHeight ∧ pair.2.y = centre + px halfHeight

theorem length_rail {side : Station α → List (Point α)}
    (crossing : ∀ tick, (side (crossingAt grid centre tick)).length = 3)
    (straight : ∀ tick, (side (straightAt grid centre tick)).length = 1) :
    ((stations grid centre states).flatMap side).length =
      states.length + 2 * (changes states).length := by
  rw [flatMap_stations, List.flatMap_def]
  refine length_flatten_pieces states _ 2 fun tick => ?_
  unfold stationAt
  split
  · exact crossing tick
  · exact straight tick

theorem zip_rails (grid : Grid α) (centre : α) (states : List Nat) :
    ((stations grid centre states).flatMap Station.upper).zip
        ((stations grid centre states).flatMap Station.lower) =
      (List.range states.length).flatMap fun tick =>
        (stationAt grid centre states tick).upper.zip (stationAt grid centre states tick).lower := by
  rw [flatMap_stations, flatMap_stations]
  apply zip_flatMap
  intro tick
  exact stationAt_cases (fun station => station.upper.length = station.lower.length) rfl rfl

theorem apart_crossingAt {pair : Point α × Point α}
    (membership : pair ∈
      (crossingAt grid centre tick).upper.zip (crossingAt grid centre tick).lower) :
    pair = (⟨grid.x tick, centre⟩, ⟨grid.x tick, centre⟩) ∨
      pair.1.y = centre - px halfHeight ∧ pair.2.y = centre + px halfHeight := by
  simp only [crossingAt, List.zip_cons_cons, List.zip_nil_right, List.mem_cons, List.not_mem_nil,
    or_false] at membership
  rcases membership with rfl | rfl | rfl
  · exact .inr ⟨rfl, rfl⟩
  · exact .inl rfl
  · exact .inr ⟨rfl, rfl⟩

theorem apart_straightAt {pair : Point α × Point α}
    (membership : pair ∈
      (straightAt grid centre tick).upper.zip (straightAt grid centre tick).lower) :
    pair.1.y = centre - px halfHeight ∧ pair.2.y = centre + px halfHeight := by
  obtain rfl := List.mem_singleton.mp membership
  exact ⟨rfl, rfl⟩

theorem rails_stations (grid : Grid α) (centre : α) (states : List Nat) :
    Rails states grid centre ((stations grid centre states).flatMap Station.upper)
      ((stations grid centre states).flatMap Station.lower) where
  upperCount := length_rail (fun _ => rfl) fun _ => rfl
  lowerCount := length_rail (fun _ => rfl) fun _ => rfl
  level := by
    rw [flatMap_stations, flatMap_stations, List.map_flatMap, List.map_flatMap]
    refine List.flatMap_congr fun tick _ => ?_
    exact stationAt_cases (fun station =>
      station.lower.map Point.x = station.upper.map Point.x) rfl rfl
  meet := by
    rw [zip_rails, map_changes]
    refine List.Sublist.flatMap_right _ fun tick _ => ?_
    unfold stationAt
    split
    · exact List.singleton_sublist.mpr (.tail _ (.head _))
    · exact List.nil_sublist _
  apart := by
    intro pair membership
    rw [zip_rails] at membership
    obtain ⟨tick, reached, here⟩ := List.mem_flatMap.mp membership
    by_cases changed : tick ∈ changes states
    · rw [stationAt_of_mem_changes changed] at here
      exact (apart_crossingAt here).imp_left fun meets => ⟨tick, changed, meets⟩
    · rw [stationAt_of_not_mem_changes (List.mem_range.mp reached) changed] at here
      exact .inr (apart_straightAt here)

theorem attachments_sublist {pick : List (Point α) → Option (Point α)}
    {side : Station α → List (Point α)}
    (crossing : ∀ tick, pick (crossingAt grid centre tick).attachments = some ⟨grid.x tick, centre⟩ ∧
      ⟨grid.x tick, centre⟩ ∈ side (crossingAt grid centre tick))
    (straight : ∀ tick, (pick (straightAt grid centre tick).attachments).toList =
      side (straightAt grid centre tick)) :
    (((stations grid centre states).map Station.attachments).filterMap pick).Sublist
      ((stations grid centre states).flatMap side) := by
  rw [List.filterMap_eq_flatMap_toList, List.flatMap_map, flatMap_stations, flatMap_stations]
  refine List.Sublist.flatMap_right _ fun tick _ => ?_
  unfold stationAt
  split
  · obtain ⟨picked, stands⟩ := crossing tick
    rw [picked]
    exact List.singleton_sublist.mpr stands
  · rw [straight tick]

/-! ### Exact rails -/

/-- Rails that never run backwards and mirror each other. -/
structure Even (states : List Nat) (grid : Grid ℝ) (centre : ℝ) (upper lower : List (Point ℝ)) :
    Prop where
  rising : (upper.map Point.x).Pairwise (· ≤ ·) ∧ (lower.map Point.x).Pairwise (· ≤ ·)
  mirror : lower = upper.map fun point => ⟨point.x, centre + (centre - point.y)⟩
  meet : (upper.zip lower).filter (fun pair => pair.1 = pair.2) =
    (changes states).map fun tick => (⟨grid.x tick, centre⟩, ⟨grid.x tick, centre⟩)

section Exact

variable {grid : Grid ℝ} {centre : ℝ}

theorem x_succ (grid : Grid ℝ) (tick : Nat) : grid.x (tick + 1) = grid.x tick + grid.tickWidth := by
  simp only [Grid.x, px_real]
  push_cast
  ring

theorem halfHeight_pos : (0 : ℝ) < px halfHeight :=
  Int.cast_pos.mpr (by decide)

theorem run_nonneg (positive : 0 < grid.tickWidth) : 0 ≤ run grid := by
  have half : 0 < grid.tickWidth / 2 := half_pos positive
  exact le_min halfHeight_pos.le half.le

/-- What a change takes on either side leaves room for a change at the next tick. -/
theorem add_run_le_sub_run (grid : Grid ℝ) (tick : Nat) :
    grid.x tick + run grid ≤ grid.x (tick + 1) - run grid := by
  have bound : run grid ≤ grid.tickWidth / 2 := min_le_right _ _
  rw [x_succ]
  linarith

theorem x_mem_upper (positive : 0 < grid.tickWidth) {point : Point ℝ}
    (membership : point ∈ (stationAt grid centre states tick).upper) :
    grid.x tick - run grid ≤ point.x ∧ point.x ≤ grid.x tick + run grid := by
  have room := run_nonneg positive
  unfold stationAt at membership
  split at membership
  · simp only [crossingAt, List.mem_cons, List.not_mem_nil, or_false] at membership
    rcases membership with rfl | rfl | rfl
    · constructor <;> simp only <;> linarith
    · constructor <;> simp only <;> linarith
    · constructor <;> simp only <;> linarith
  · obtain rfl := List.mem_singleton.mp membership
    constructor <;> simp only <;> linarith

theorem rising_upper (positive : 0 < grid.tickWidth) (centre : ℝ) (states : List Nat) :
    (((stations grid centre states).flatMap Station.upper).map Point.x).Pairwise (· ≤ ·) := by
  have room := run_nonneg positive
  rw [List.pairwise_map, ← List.isChain_iff_pairwise, flatMap_stations, List.flatMap_def]
  refine isChain_flatten_pieces _ (fun tick => ?_) (fun tick => ?_) ?_
  · exact stationAt_cases (fun station => station.upper ≠ []) (List.cons_ne_nil _ _)
      (List.cons_ne_nil _ _)
  · refine stationAt_cases (fun station : Station ℝ => station.upper.IsChain fun point next =>
      point.x ≤ next.x) ?_ (List.isChain_singleton _)
    simp only [crossingAt, List.isChain_cons_cons, List.isChain_singleton, and_true]
    constructor <;> linarith
  · -- What is behind a tick ends half way to the next tick, where what is in front of that one starts.
    intro tick last ends first starts
    have behind := (x_mem_upper positive (List.mem_of_mem_getLast? ends)).2
    have before := (x_mem_upper positive (List.mem_of_mem_head? starts)).1
    exact behind.trans ((add_run_le_sub_run grid tick).trans before)

theorem mirror_stations (grid : Grid ℝ) (centre : ℝ) (states : List Nat) :
    (stations grid centre states).flatMap Station.lower =
      ((stations grid centre states).flatMap Station.upper).map fun point =>
        ⟨point.x, centre + (centre - point.y)⟩ := by
  rw [flatMap_stations, flatMap_stations, List.map_flatMap]
  refine List.flatMap_congr fun tick _ => ?_
  refine stationAt_cases (fun station => station.lower = station.upper.map fun point =>
    ⟨point.x, centre + (centre - point.y)⟩) ?_ ?_
  · simp [crossingAt]
  · simp [straightAt]

theorem meet_stations (grid : Grid ℝ) (centre : ℝ) (states : List Nat) :
    (((stations grid centre states).flatMap Station.upper).zip
        ((stations grid centre states).flatMap Station.lower)).filter
          (fun pair => pair.1 = pair.2) =
      (changes states).map fun tick => (⟨grid.x tick, centre⟩, ⟨grid.x tick, centre⟩) := by
  have apart : centre - halfHeight ≠ centre + halfHeight := by
    have height := halfHeight_pos
    rw [px_real] at height
    intro same
    linarith
  rw [zip_rails, List.filter_flatMap, map_changes]
  refine List.flatMap_congr fun tick _ => ?_
  unfold stationAt
  split
  · simp [crossingAt, apart]
  · simp [straightAt, apart]

theorem even_stations (positive : 0 < grid.tickWidth) (centre : ℝ) (states : List Nat) :
    Even states grid centre ((stations grid centre states).flatMap Station.upper)
      ((stations grid centre states).flatMap Station.lower) where
  rising := by
    have upperRises := rising_upper positive centre states
    refine ⟨upperRises, ?_⟩
    rw [(rails_stations grid centre states).level]
    exact upperRises
  mirror := mirror_stations grid centre states
  meet := meet_stations grid centre states

end Exact

end Bus

namespace LifelineBox

/-- A box whose track is a pair of rails that meet at the changes. -/
structure Railed (states : List Nat) (grid : Grid α) (box : LifelineBox α) : Prop where
  ticks : box.attachments.length = states.length
  changed : ∀ tick ∈ changes states,
    box.attachments[tick]? = some [⟨grid.x tick, busCentre box.bottom⟩]
  unchanged : ∀ tick < states.length, tick ∉ changes states → box.attachments[tick]? =
    some [⟨grid.x tick, busCentre box.bottom - px Bus.halfHeight⟩,
      ⟨grid.x tick, busCentre box.bottom + px Bus.halfHeight⟩]
  track : ∃ upper lower, box.track = .bus upper lower (upper ++ lower.reverse) ∧
    Bus.Rails states grid (busCentre box.bottom) upper lower ∧
    (box.attachments.filterMap List.head?).Sublist upper ∧
    (box.attachments.filterMap List.getLast?).Sublist lower

theorem getElem?_attachments_withBus {box : LifelineBox α} {column : List Snapshot}
    (within : tick < (column.map Snapshot.state).length) :
    (box.withBus grid column).attachments[tick]? =
      some (Bus.stationAt grid (busCentre box.bottom) (column.map Snapshot.state) tick).attachments := by
  unfold withBus
  rw [Bus.stations_eq, List.getElem?_map, List.getElem?_map, List.getElem?_range within]
  rfl

theorem railed_withBus (box : LifelineBox α) (grid : Grid α) (column : List Snapshot) :
    Railed (column.map Snapshot.state) grid (box.withBus grid column) where
  ticks := by
    unfold withBus
    rw [Bus.stations_eq, List.length_map, List.length_map, List.length_range]
  changed := by
    intro tick changed
    have within := List.mem_range.mp (List.mem_filter.mp changed).1
    rw [getElem?_attachments_withBus within, Bus.stationAt_of_mem_changes changed]
    rfl
  unchanged := by
    intro tick within unchanged
    rw [getElem?_attachments_withBus within, Bus.stationAt_of_not_mem_changes within unchanged]
    rfl
  track := by
    refine ⟨_, _, rfl, Bus.rails_stations _ _ _, ?_, ?_⟩
    · exact Bus.attachments_sublist (fun _ => ⟨rfl, .tail _ (.head _)⟩) fun _ => rfl
    · exact Bus.attachments_sublist (fun _ => ⟨rfl, .tail _ (.head _)⟩) fun _ => rfl

end LifelineBox

/-- Buses run between rails that meet at the changes and nowhere else. A bus offers its centre at a
change and a point of each rail at any other tick; the rails run through these points in their order,
and have two further points at each change. In exact geometry they mirror each other and never run
backwards, whatever the width of a tick. -/
theorem buses_run_between_rails :
    (∀ {α : Type} [Scalar α] (measurer : Measurer α) (timeline : Timeline) (page : Page α),
      Page.layout measurer timeline = .ok page →
      List.Forall₂ (fun lifeline box => lifeline.style = .simplified →
        LifelineBox.Railed ((timeline.column lifeline.name).map Snapshot.state) page.grid box)
        timeline.lifelines.values page.lifelines) ∧
    ∀ (measurer : Measurer ℝ) (timeline : Timeline) (page : Page ℝ),
      Page.layout measurer timeline = .ok page → 0 < page.tickWidth →
      List.Forall₂ (fun lifeline box => lifeline.style = .simplified →
        ∀ upper lower band, box.track = .bus upper lower band →
          Bus.Even ((timeline.column lifeline.name).map Snapshot.state) page.grid
            (LifelineBox.busCentre box.bottom) upper lower)
        timeline.lifelines.values page.lifelines := by
  constructor
  · intro α _ measurer timeline page laidOut
    apply (Page.shows_of_layout laidOut).lifelines.imp
    rintro lifeline box ⟨top, placed⟩ simplified
    cases placed with
    | bus => exact LifelineBox.railed_withBus _ page.grid _
    | staircase normal => simp [normal] at simplified
    | shaded slice => simp [slice] at simplified
  · intro measurer timeline page laidOut positive
    apply (Page.shows_of_layout laidOut).lifelines.imp
    rintro lifeline box ⟨top, placed⟩ simplified
    cases placed with
    | bus =>
        intro upper lower band drawn
        cases drawn
        exact Bus.even_stations positive _ _
    | staircase normal => simp [normal] at simplified
    | shaded slice => simp [slice] at simplified

theorem joinedDiagram_lamp_runs_between_rails :
    ∃ page : Page ℝ, Page.layout ⟨fun _ _ => 0⟩ joinedDiagram.timeline = .ok page ∧
      0 < page.tickWidth ∧
      List.Forall₂ (fun lifeline box => lifeline.style = .simplified →
        LifelineBox.Railed ((joinedDiagram.timeline.column lifeline.name).map Snapshot.state)
          page.grid box)
        joinedDiagram.timeline.lifelines.values page.lifelines ∧
      List.Forall₂ (fun lifeline box => lifeline.style = .simplified →
        ∀ upper lower band, box.track = .bus upper lower band →
          Bus.Even ((joinedDiagram.timeline.column lifeline.name).map Snapshot.state) page.grid
            (LifelineBox.busCentre box.bottom) upper lower)
        joinedDiagram.timeline.lifelines.values page.lifelines := by
  have named : ∀ entry ∈ joinedDiagram.timeline.lifelines.entries, entry.2.name = entry.1 := by
    decide +kernel
  have fine : joinedDiagram.timeline.faults = [] := by decide +kernel
  have accepted : ∃ page : Page ℝ, Page.layout ⟨fun _ _ => 0⟩ joinedDiagram.timeline = .ok page :=
    Page.exists_layout named fine
  obtain ⟨page, laidOut⟩ := accepted
  have positive : 0 < page.tickWidth := by
    rw [Page.tickWidth_of_layout laidOut]
    exact Number.Value.toReal_pos_iff.mpr (by decide +kernel)
  obtain ⟨railed, even⟩ := buses_run_between_rails
  refine ⟨page, laidOut, positive, ?_, ?_⟩
  · exact railed _ joinedDiagram.timeline page laidOut
  · exact even _ joinedDiagram.timeline page laidOut positive

end Chronogram
