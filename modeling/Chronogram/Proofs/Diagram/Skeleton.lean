import Chronogram.Layout.Legend
import Chronogram.Proofs.Diagram.WellBuilt
import Chronogram.Proofs.Layout.Reference
import Chronogram.Proofs.Pointwise
import Chronogram.Proofs.Timeline.ForwardFill

/-!
Diagrams apart from their texts.

The skeleton of a diagram keeps everything but the texts: lifelines are known by their place in the
order of declaration, and of a label only its being there is kept. Two diagrams with the same
skeleton are filled forward alike, and layout accepts both or neither.
-/

namespace Chronogram

/-- An arrow end, with the place of its lifeline. -/
structure EndSkeleton where
  place : Nat
  tick : Nat
  slot : Nat
  deriving Repr, DecidableEq

/-- An arrow without its texts. -/
structure ArrowSkeleton where
  origin : EndSkeleton
  dest : EndSkeleton
  isLabelled : Bool
  labelPosition : Int
  labelSide : LabelSide
  style : ArrowStyle
  deriving Repr, DecidableEq

/-- A diagram without its texts and without the settings that are lengths. -/
structure Skeleton where
  legendMode : LegendMode
  legendFrequency : Nat
  /-- The style of each lifeline, and which of its states have labels. -/
  lifelines : List (LifelineStyle × List Bool)
  /-- The place of the lifeline, the time and the state of each observation. -/
  ticks : List (Nat × Nat × Nat)
  /-- The place of the lifeline and the two ticks of each span. -/
  spans : List (Nat × Nat × Nat)
  arrows : List ArrowSkeleton
  deriving Repr, DecidableEq

namespace Diagram

/-- The place of a name in the order of declaration; a name that is not declared comes last. -/
def place (diagram : Diagram) (name : String) : Nat :=
  diagram.lifelines.keys.idxOf name

def endSkeleton (diagram : Diagram) (arrowEnd : ArrowEnd) : EndSkeleton :=
  ⟨diagram.place arrowEnd.lifeline, arrowEnd.tick, arrowEnd.slot⟩

def skeleton (diagram : Diagram) : Skeleton where
  legendMode := diagram.config.legendMode
  legendFrequency := diagram.config.legendFrequency
  lifelines := diagram.lifelines.values.map fun lifeline =>
    (lifeline.style, lifeline.states.slots.map Option.isSome)
  ticks := diagram.ticks.map fun tick => (diagram.place tick.lifeline, tick.time, tick.state)
  spans := diagram.spans.map fun span =>
    (diagram.place span.lifeline, span.originTick, span.destTick)
  arrows := diagram.arrows.map fun arrow =>
    { origin := diagram.endSkeleton arrow.origin
      dest := diagram.endSkeleton arrow.dest
      isLabelled := arrow.label.isSome
      labelPosition := arrow.labelPosition
      labelSide := arrow.labelSide
      style := arrow.style }

end Diagram

/-- Two lifelines that differ at most in texts, under names with the same place. -/
structure Lifeline.Alike (first second : Diagram) (lifeline other : Lifeline) : Prop where
  style : lifeline.style = other.style
  slots : lifeline.states.slots.map Option.isSome = other.states.slots.map Option.isSome
  place : first.place lifeline.name = second.place other.name

namespace Diagram

theorem WellBuilt.map_name_values {diagram : Diagram} (wellBuilt : diagram.WellBuilt) :
    diagram.lifelines.values.map Lifeline.name = diagram.lifelines.keys := by
  rw [Table.values, Table.keys, List.map_map]
  exact List.map_congr_left fun entry stored => (wellBuilt.lifelines entry stored).named

theorem WellBuilt.map_place_values {diagram : Diagram} (wellBuilt : diagram.WellBuilt) :
    (diagram.lifelines.values.map fun lifeline => diagram.place lifeline.name) =
      List.range diagram.lifelines.keys.length := by
  have named : (diagram.lifelines.values.map fun lifeline => diagram.place lifeline.name) =
      diagram.lifelines.keys.map diagram.place := by
    rw [← wellBuilt.map_name_values, List.map_map]
    rfl
  rw [named]
  refine List.ext_getElem (by simp) fun index within _ => ?_
  rw [List.getElem_map, List.getElem_range]
  exact wellBuilt.distinct.idxOf_getElem index (by simpa using within)

variable {first second : Diagram} (same : first.skeleton = second.skeleton)

include same

theorem length_keys : first.lifelines.keys.length = second.lifelines.keys.length := by
  have lengths := congrArg (fun skeleton => skeleton.lifelines.length) same
  simpa [skeleton, Table.values, Table.keys] using lengths

theorem alike_lifelines (wellBuilt : first.WellBuilt) (wellBuilt' : second.WellBuilt) :
    List.Forall₂ (Lifeline.Alike first second) first.lifelines.values second.lifelines.values := by
  have looks := congrArg Skeleton.lifelines same
  have places := wellBuilt.map_place_values
  rw [length_keys same, ← wellBuilt'.map_place_values] at places
  have pairs := congrArg₂ List.zip looks places
  simp only [skeleton, List.zip_map'] at pairs
  refine (forall₂_of_map_eq pairs).imp fun lifeline other equal => ?_
  simp only [Prod.mk.injEq] at equal
  exact ⟨equal.1.1, equal.1.2, equal.2⟩

theorem mem_keys_iff {name other : String} (place : first.place name = second.place other) :
    name ∈ first.lifelines.keys ↔ other ∈ second.lifelines.keys := by
  rw [← List.idxOf_lt_length_iff, ← List.idxOf_lt_length_iff, ← length_keys same]
  exact iff_of_eq (congrArg (· < first.lifelines.keys.length) place)

/-- Names of lifelines at the same place are the names of the same observations. -/
theorem lifeline_eq_iff {name other tick tick' : String}
    (place : first.place name = second.place other) (known : name ∈ first.lifelines.keys)
    (places : first.place tick = second.place tick') : tick = name ↔ tick' = other := by
  have known' := (mem_keys_iff same place).mp known
  have here : first.place name = first.place tick ↔ name = tick := List.idxOf_inj known
  have there : second.place other = second.place tick' ↔ other = tick' := List.idxOf_inj known'
  rw [eq_comm, ← here, eq_comm (a := tick'), ← there, place, places]

theorem alike_ticks : List.Forall₂ (fun tick other =>
    first.place tick.lifeline = second.place other.lifeline ∧ tick.time = other.time ∧
      tick.state = other.state) first.ticks second.ticks := by
  refine (forall₂_of_map_eq (congrArg Skeleton.ticks same)).imp fun tick other equal => ?_
  simpa using equal

theorem timeCount_eq_of_skeleton : first.timeCount = second.timeCount := by
  have times := congrArg (List.map fun tick => tick.2.1) (congrArg Skeleton.ticks same)
  simp only [skeleton, List.map_map] at times
  have equal : first.ticks.map Tick.time = second.ticks.map Tick.time := times
  rw [timeCount, timeCount, equal]

theorem snapshotAt_eq_of_skeleton {name other : String}
    (place : first.place name = second.place other) (known : name ∈ first.lifelines.keys) :
    first.snapshotAt name = second.snapshotAt other := by
  have observed : first.observed? name = second.observed? other := by
    funext time
    rw [observed?, observed?, ← List.getLast?_map, ← List.getLast?_map]
    congr 1
    refine map_filter_eq_of_forall₂ (alike_ticks same) ?_ fun _ _ alike => alike.2.2
    rintro tick tick' ⟨places, times, -⟩
    rw [decide_eq_decide, times, lifeline_eq_iff same place known places]
  have latest : first.latestTime? name = second.latestTime? other := by
    funext time
    rw [latestTime?, latestTime?]
    congr 1
    refine map_filter_eq_of_forall₂ (alike_ticks same) ?_ fun _ _ alike => alike.2.1
    rintro tick tick' ⟨places, times, -⟩
    rw [decide_eq_decide, times, lifeline_eq_iff same place known places]
  funext time
  simp only [snapshotAt, stateBefore, observed, latest]

theorem column?_eq_of_skeleton {name other : String}
    (place : first.place name = second.place other) :
    first.timeline.column? name = second.timeline.column? other := by
  by_cases known : name ∈ first.lifelines.keys
  · have known' := (mem_keys_iff same place).mp known
    rw [Timeline.column?_eq_some first name known, Timeline.column?_eq_some second other known',
      snapshotAt_eq_of_skeleton same place known, rows_eq, rows_eq, List.length_map,
      List.length_map, timeCount_eq_of_skeleton same]
  · have unknown' := mt (mem_keys_iff same place).mpr known
    rw [(Timeline.column?_eq_none_iff first name).mpr known,
      (Timeline.column?_eq_none_iff second other).mpr unknown']

theorem column_eq_of_skeleton {name other : String}
    (place : first.place name = second.place other) :
    first.timeline.column name = second.timeline.column other := by
  rw [Timeline.column, Timeline.column, column?_eq_of_skeleton same place]

theorem stateAt_eq_of_skeleton {name other : String}
    (place : first.place name = second.place other) :
    first.timeline.stateAt name = second.timeline.stateAt other := by
  funext tick
  rw [Timeline.stateAt, Timeline.stateAt, Timeline.snapshot?_eq, Timeline.snapshot?_eq,
    column?_eq_of_skeleton same place]

theorem tickCount_eq_of_skeleton : first.timeline.tickCount = second.timeline.tickCount := by
  change first.rows.length = second.rows.length
  rw [rows_eq, rows_eq, List.length_map, List.length_map, timeCount_eq_of_skeleton same]

theorem legendTicks_eq_of_skeleton (wellBuilt : first.WellBuilt) (wellBuilt' : second.WellBuilt) :
    first.timeline.legendTicks = second.timeline.legendTicks := by
  have mode : first.timeline.config.legendMode = second.timeline.config.legendMode :=
    congrArg Skeleton.legendMode same
  have frequency : first.timeline.config.legendFrequency = second.timeline.config.legendFrequency :=
    congrArg Skeleton.legendFrequency same
  -- Only the lifeline that was declared first decides on the significant ticks.
  have column : first.timeline.firstColumn = second.timeline.firstColumn := by
    have alike := alike_lifelines same wellBuilt wellBuilt'
    have keys : first.timeline.lifelines.keys = first.lifelines.values.map Lifeline.name :=
      wellBuilt.map_name_values.symm
    have keys' : second.timeline.lifelines.keys = second.lifelines.values.map Lifeline.name :=
      wellBuilt'.map_name_values.symm
    rw [Timeline.firstColumn, Timeline.firstColumn, keys, keys']
    generalize first.lifelines.values = lifelines at alike
    generalize second.lifelines.values = others at alike
    cases alike with
    | nil => rfl
    | cons alike _ => exact column_eq_of_skeleton same alike.place
  rw [Timeline.legendTicks, Timeline.legendTicks, mode, frequency, column,
    tickCount_eq_of_skeleton same]

/-! ### References -/

theorem alike_spans : List.Forall₂ (fun span other =>
    first.place span.lifeline = second.place other.lifeline ∧
      span.originTick = other.originTick ∧ span.destTick = other.destTick)
    first.spans second.spans := by
  refine (forall₂_of_map_eq (congrArg Skeleton.spans same)).imp fun span other equal => ?_
  simpa using equal

theorem alike_arrows : List.Forall₂ (fun arrow other =>
    first.endSkeleton arrow.origin = second.endSkeleton other.origin ∧
      first.endSkeleton arrow.dest = second.endSkeleton other.dest ∧
      arrow.label.isSome = other.label.isSome ∧ arrow.style = other.style)
    first.arrows second.arrows := by
  refine (forall₂_of_map_eq (congrArg Skeleton.arrows same)).imp fun arrow other equal => ?_
  simp only [ArrowSkeleton.mk.injEq] at equal
  exact ⟨equal.1, equal.2.1, equal.2.2.1, equal.2.2.2.2.2⟩

/-- Lifelines at the same place offer the same number of points. -/
theorem attachmentCount_eq_of_skeleton {lifeline other : Lifeline}
    (alike : Lifeline.Alike first second lifeline other) :
    first.timeline.attachmentCount lifeline = second.timeline.attachmentCount other := by
  funext tick
  have changes : first.timeline.ChangesAt lifeline.name tick ↔
      second.timeline.ChangesAt other.name tick := by
    rw [Timeline.ChangesAt, Timeline.ChangesAt, stateAt_eq_of_skeleton same alike.place]
  simp only [Timeline.attachmentCount, alike.style, changes]

theorem attaches_of_skeleton (wellBuilt : first.WellBuilt) (wellBuilt' : second.WellBuilt)
    {arrowEnd other : ArrowEnd} (alikeEnds : first.endSkeleton arrowEnd = second.endSkeleton other)
    (attaches : first.timeline.Attaches arrowEnd) : second.timeline.Attaches other := by
  simp only [endSkeleton, EndSkeleton.mk.injEq] at alikeEnds
  obtain ⟨place, tick, slot⟩ := alikeEnds
  obtain ⟨lifeline, declared, within, offered⟩ := attaches
  have here : first.lifelines.values[first.place arrowEnd.lifeline]? = some lifeline :=
    (first.lifelines.get?_eq_getElem?_values _).symm.trans declared
  obtain ⟨counterpart, there, alike⟩ :=
    exists_getElem?_of_forall₂ (alike_lifelines same wellBuilt wellBuilt') here
  rw [place] at there
  refine ⟨counterpart, (second.lifelines.get?_eq_getElem?_values _).trans there, ?_, ?_⟩
  · rwa [← tick, ← tickCount_eq_of_skeleton same]
  · rwa [← slot, ← tick, ← attachmentCount_eq_of_skeleton same alike]

/-- Everything that a diagram refers to is there if it is so for a diagram with the same
skeleton. -/
theorem resolves_of_skeleton (wellBuilt : first.WellBuilt) (wellBuilt' : second.WellBuilt)
    (resolves : first.timeline.Resolves) : second.timeline.Resolves where
  states := by
    intro other stored rows tick within
    obtain ⟨lifeline, stored, alike⟩ :=
      exists_of_forall₂ (alike_lifelines same wellBuilt wellBuilt') stored
    rw [← alike.style] at rows
    rw [← tickCount_eq_of_skeleton same] at within
    have shown := resolves.states lifeline stored rows tick within
    rwa [Catalog.shows_iff, alike.slots, stateAt_eq_of_skeleton same alike.place,
      ← Catalog.shows_iff] at shown
  spans := by
    intro other stored
    obtain ⟨span, stored, place, origin, dest⟩ := exists_of_forall₂ (alike_spans same) stored
    obtain ⟨known, fromTick, toTick⟩ := resolves.spans span stored
    rw [tickCount_eq_of_skeleton same] at fromTick toTick
    exact ⟨(mem_keys_iff same place).mp known, origin ▸ fromTick, dest ▸ toTick⟩
  arrows := by
    intro other stored
    obtain ⟨arrow, stored, origin, dest, -⟩ := exists_of_forall₂ (alike_arrows same) stored
    obtain ⟨attaches, attaches'⟩ := resolves.arrows arrow stored
    exact ⟨attaches_of_skeleton same wellBuilt wellBuilt' origin attaches,
      attaches_of_skeleton same wellBuilt wellBuilt' dest attaches'⟩

end Diagram

end Chronogram
