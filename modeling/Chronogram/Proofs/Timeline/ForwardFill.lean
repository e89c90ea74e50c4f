import Chronogram.Proofs.Table
import Chronogram.Timeline
import Mathlib.Data.List.Induction

/-!
Rows fill observations forward.

The rows are built by one pass over all times that carries the latest snapshots along. They are
compared with a search through the list of observations: a snapshot is the last listed observation
of its time, or else the state of the last listed observation at the greatest earlier time.
-/

namespace Chronogram

namespace Diagram

/-- The state that the last listed observation of a lifeline at a time gives. -/
def observed? (diagram : Diagram) (name : String) (time : Nat) : Option Nat :=
  (diagram.ticks.filter fun tick => tick.time = time ∧ tick.lifeline = name).getLast?.map
    Tick.state

/-- The greatest time before another one at which a lifeline is observed. -/
def latestTime? (diagram : Diagram) (name : String) (time : Nat) : Option Nat :=
  ((diagram.ticks.filter fun tick => tick.time < time ∧ tick.lifeline = name).map Tick.time).max?

/-- The state of a lifeline before a time; zero as long as it has not been observed. -/
def stateBefore (diagram : Diagram) (name : String) (time : Nat) : Nat :=
  ((diagram.latestTime? name time).bind (diagram.observed? name)).getD 0

/-- The snapshot of a lifeline at a time. -/
def snapshotAt (diagram : Diagram) (name : String) (time : Nat) : Snapshot :=
  match diagram.observed? name time with
  | some state => ⟨state, true⟩
  | none => ⟨diagram.stateBefore name time, false⟩

def rowAt (diagram : Diagram) (time : Nat) : Row :=
  ⟨time, diagram.lifelines.mapValues fun name _ => diagram.snapshotAt name time⟩

end Diagram

theorem lastObserved?_eq (ticks : List Tick) (name : String) :
    lastObserved? ticks name =
      (ticks.filter fun tick => tick.lifeline = name).getLast?.map Tick.state := by
  unfold lastObserved?
  induction ticks using List.reverseRecOn with
  | nil => rfl
  | append_singleton ticks tick inductionHypothesis =>
      rw [List.foldl_append, inductionHypothesis]
      by_cases same : tick.lifeline = name <;> simp [same]

namespace Diagram

variable (diagram : Diagram) (name : String) (time : Nat)

theorem lastObserved?_filter :
    lastObserved? (diagram.ticks.filter fun tick => tick.time = time) name =
      diagram.observed? name time := by
  rw [lastObserved?_eq, observed?, List.filter_filter]
  simp only [Bool.decide_and, Bool.and_comm]

/-- The snapshots that the pass carries along in front of a time. -/
def carried : Nat → Snapshot
  | 0 => Snapshot.initial
  | time + 1 => diagram.snapshotAt name time

theorem observed?_eq_none_iff :
    diagram.observed? name time = none ↔
      ∀ tick ∈ diagram.ticks, tick.time = time → tick.lifeline ≠ name := by
  simp [observed?]

theorem latestTime?_zero : diagram.latestTime? name 0 = none := by
  simp [latestTime?]

theorem latestTime?_succ_of_observed {state : Nat}
    (found : diagram.observed? name time = some state) :
    diagram.latestTime? name (time + 1) = some time := by
  have unobserved := mt (diagram.observed?_eq_none_iff name time).mpr (by simp [found])
  push Not at unobserved
  obtain ⟨tick, membership, here, named⟩ := unobserved
  refine List.max?_eq_some_iff.mpr ⟨?_, ?_⟩
  · refine List.mem_map.mpr ⟨tick, List.mem_filter.mpr ⟨membership, ?_⟩, here⟩
    simp [here, named]
  · intro earlier membership
    obtain ⟨tick, filtered, rfl⟩ := List.mem_map.mp membership
    have bounds := (List.mem_filter.mp filtered).2
    simp only [decide_eq_true_eq] at bounds
    omega

/-- Without an observation at a time nothing changes behind it. -/
theorem latestTime?_succ_of_unobserved (missing : diagram.observed? name time = none) :
    diagram.latestTime? name (time + 1) = diagram.latestTime? name time := by
  unfold latestTime?
  congr 2
  refine List.filter_congr fun tick membership => ?_
  have elsewhere := (diagram.observed?_eq_none_iff name time).mp missing tick membership
  rw [decide_eq_decide]
  constructor
  · rintro ⟨bound, named⟩
    have differs : tick.time ≠ time := fun here => elsewhere here named
    exact ⟨by omega, named⟩
  · rintro ⟨bound, named⟩
    exact ⟨by omega, named⟩

/-- The pass carries the state that the search finds. -/
theorem carried_state : (diagram.carried name time).state = diagram.stateBefore name time := by
  cases time with
  | zero => simp [carried, stateBefore, latestTime?_zero, Snapshot.initial]
  | succ time =>
      cases found : diagram.observed? name time with
      | none =>
          simp [carried, snapshotAt, stateBefore, found,
            latestTime?_succ_of_unobserved diagram name time found]
      | some state =>
          simp [carried, snapshotAt, stateBefore, found,
            latestTime?_succ_of_observed diagram name time found]

theorem next_carried :
    Snapshot.next (diagram.ticks.filter fun tick => tick.time = time) name
      (diagram.carried name time) = diagram.snapshotAt name time := by
  cases found : diagram.observed? name time <;>
    simp only [Snapshot.next, lastObserved?_filter, carried_state, snapshotAt, found]

/-- One step of the pass adds the row of its time. -/
theorem advance_carried (rows : List Row) :
    RowBuilder.advance ⟨diagram.lifelines.mapValues fun name _ => diagram.carried name time, rows⟩
        (diagram.ticks.filter fun tick => tick.time = time) time =
      ⟨diagram.lifelines.mapValues fun name _ => diagram.carried name (time + 1),
        diagram.rowAt time :: rows⟩ := by
  simp only [RowBuilder.advance, Table.mapValues_mapValues, next_carried]
  rfl

/-- The pass over the times below a bound gives their rows, the last one first. -/
theorem run_carried (count : Nat) :
    RowBuilder.run diagram.lifelines diagram.ticks count =
      ⟨diagram.lifelines.mapValues fun name _ => diagram.carried name count,
        ((List.range count).map diagram.rowAt).reverse⟩ := by
  have passed : ∀ bound ≤ count,
      (List.range bound).foldl
          (fun builder time =>
            builder.advance (((ticksByTime count diagram.ticks)[time]?).getD []) time)
          ⟨diagram.lifelines.mapValues fun _ _ => Snapshot.initial, []⟩ =
        (⟨diagram.lifelines.mapValues fun name _ => diagram.carried name bound,
          ((List.range bound).map diagram.rowAt).reverse⟩ : RowBuilder) := by
    intro bound within
    induction bound with
    | zero => rfl
    | succ bound inductionHypothesis =>
        rw [List.range_succ, List.foldl_append, inductionHypothesis (by omega)]
        simp only [List.foldl_cons, List.foldl_nil,
          getElem?_ticksByTime diagram.ticks (show bound < count by omega), Option.getD_some,
          advance_carried]
        simp
  exact passed count (Nat.le_refl count)

/-- The rows are those of all times that the observations reach, in order. -/
theorem rows_eq : diagram.rows = (List.range diagram.timeCount).map diagram.rowAt := by
  rw [rows, run_carried, List.reverse_reverse]

theorem timeCount_eq_zero (none : diagram.ticks = []) : diagram.timeCount = 0 := by
  simp [timeCount, none]

theorem timeCount_eq {last : Nat} (found : (diagram.ticks.map Tick.time).max? = some last) :
    diagram.timeCount = last + 1 := by
  simp [timeCount, found]

/-- Observations reach at least as far as each part of them. -/
theorem timeCount_le_of_subset {part whole : Diagram} (subset : part.ticks ⊆ whole.ticks) :
    part.timeCount ≤ whole.timeCount := by
  cases found : (part.ticks.map Tick.time).max? with
  | none => simp [timeCount, found]
  | some last =>
      have reached := List.map_subset Tick.time subset (List.max?_mem found)
      cases foundWhole : (whole.ticks.map Tick.time).max? with
      | none =>
          rw [List.max?_eq_none_iff] at foundWhole
          simp [foundWhole] at reached
      | some lastWhole =>
          have bound := (List.max?_eq_some_iff.mp foundWhole).2 last reached
          rw [timeCount_eq part found, timeCount_eq whole foundWhole]
          omega

section Undeclared

variable {diagram} {before after : List Tick} {tick : Tick}

/-- An observation of another lifeline does not show. -/
theorem snapshotAt_without (split : diagram.ticks = before ++ tick :: after) {name : String}
    (other : tick.lifeline ≠ name) (time : Nat) :
    snapshotAt { diagram with ticks := before ++ after } name time =
      diagram.snapshotAt name time := by
  have observed : observed? { diagram with ticks := before ++ after } name =
      diagram.observed? name := by
    funext time
    simp [observed?, split, other]
  have latest : latestTime? { diagram with ticks := before ++ after } name =
      diagram.latestTime? name := by
    funext time
    simp [latestTime?, split, other]
  simp only [snapshotAt, stateBefore, observed, latest]

/-- An observation of a lifeline that is not declared can only add rows at the end. -/
theorem rows_without_prefix (split : diagram.ticks = before ++ tick :: after)
    (undeclared : tick.lifeline ∉ diagram.lifelines.keys) :
    rows { diagram with ticks := before ++ after } <+: diagram.rows := by
  have sameRow : rowAt { diagram with ticks := before ++ after } = diagram.rowAt := by
    funext time
    simp only [rowAt, Row.mk.injEq, true_and]
    refine Table.mapValues_congr fun name declared _ => snapshotAt_without split ?_ time
    rintro rfl
    exact undeclared declared
  have shorter : timeCount { diagram with ticks := before ++ after } ≤ diagram.timeCount := by
    refine timeCount_le_of_subset ?_
    rw [split]
    exact List.append_subset.mpr ⟨List.subset_append_left _ _,
      List.Subset.trans (List.subset_cons_self _ _) (List.subset_append_right _ _)⟩
  rw [rows_eq, rows_eq, sameRow, ← Nat.min_eq_left shorter, ← List.take_range, List.map_take]
  exact List.take_prefix _ _

end Undeclared

end Diagram

namespace Timeline

variable (diagram : Diagram) (name : String) (time : Nat)

theorem get?_rowAt (declared : name ∈ diagram.lifelines.keys) :
    (diagram.rowAt time).states.get? name = some (diagram.snapshotAt name time) := by
  obtain ⟨lifeline, found⟩ := Table.exists_get? declared
  simp [Diagram.rowAt, found]

theorem column?_eq_none_iff :
    diagram.timeline.column? name = none ↔ name ∉ diagram.lifelines.keys := by
  simp [column?, Diagram.timeline]

theorem column?_eq_some (declared : name ∈ diagram.lifelines.keys) :
    diagram.timeline.column? name =
      some ((List.range diagram.rows.length).map (diagram.snapshotAt name)) := by
  simp only [column?, Diagram.timeline, Table.contains_iff, declared, if_true, Diagram.rows_eq,
    List.map_map, List.length_map, List.length_range]
  congr 1
  refine List.map_congr_left fun time _ => ?_
  simp [get?_rowAt diagram name time declared]

theorem row_of_rows {row : Row} (found : diagram.rows[time]? = some row) :
    row = diagram.rowAt time := by
  rw [Diagram.rows_eq, List.getElem?_map] at found
  obtain ⟨_, here, rfl⟩ := Option.map_eq_some_iff.mp found
  obtain ⟨-, rfl⟩ := List.getElem?_eq_some_iff.mp here
  simp

theorem snapshot?_of_none (missing : diagram.rows[time]? = none) :
    diagram.timeline.snapshot? name time = none := by
  rw [snapshot?, show diagram.timeline.rows = diagram.rows from rfl, missing, Option.bind_none]

theorem snapshot?_of_some {row : Row} (found : diagram.rows[time]? = some row) :
    diagram.timeline.snapshot? name time = row.states.get? name := by
  rw [snapshot?, show diagram.timeline.rows = diagram.rows from rfl, found, Option.bind_some]

theorem snapshot?_eq :
    diagram.timeline.snapshot? name time =
      (diagram.timeline.column? name).bind fun column => column[time]? := by
  by_cases declared : name ∈ diagram.lifelines.keys
  · rw [column?_eq_some diagram name declared, Option.bind_some, List.getElem?_map]
    cases found : diagram.rows[time]? with
    | none =>
        have beyond := List.getElem?_eq_none_iff.mp found
        rw [snapshot?_of_none diagram name time found]
        simp [beyond]
    | some row =>
        obtain rfl := row_of_rows diagram time found
        obtain ⟨within, -⟩ := List.getElem?_eq_some_iff.mp found
        rw [snapshot?_of_some diagram name time found, get?_rowAt diagram name time declared]
        simp [within]
  · rw [(column?_eq_none_iff diagram name).mpr declared, Option.bind_none]
    cases found : diagram.rows[time]? with
    | none => exact snapshot?_of_none diagram name time found
    | some row =>
        obtain rfl := row_of_rows diagram time found
        rw [snapshot?_of_some diagram name time found]
        simpa [Diagram.rowAt] using declared

end Timeline

/-- Rows are exact forward fill. There is one row for each time up to the last observation, and in
it the snapshots of the declared lifelines in their order, each the one that a search through the
observations finds. Observations of other lifelines at most add rows. Columns and single snapshots
show the same. -/
theorem rows_fill_forward (diagram : Diagram) :
    (diagram.ticks = [] → diagram.rows = []) ∧
    (∀ last, (diagram.ticks.map Tick.time).max? = some last →
      diagram.rows.length = last + 1) ∧
    (∀ time row, diagram.rows[time]? = some row →
      row.time = time ∧ row.states.keys = diagram.lifelines.keys ∧
        ∀ name ∈ diagram.lifelines.keys,
          row.states.get? name = some (diagram.snapshotAt name time)) ∧
    (∀ before tick after, diagram.ticks = before ++ tick :: after →
      tick.lifeline ∉ diagram.lifelines.keys →
      Diagram.rows { diagram with ticks := before ++ after } <+: diagram.rows) ∧
    (∀ name, diagram.timeline.column? name = none ↔ name ∉ diagram.lifelines.keys) ∧
    (∀ name ∈ diagram.lifelines.keys, diagram.timeline.column? name =
      some ((List.range diagram.rows.length).map (diagram.snapshotAt name))) ∧
    (∀ name time, diagram.timeline.snapshot? name time =
      (diagram.timeline.column? name).bind fun column => column[time]?) ∧
    (∀ name time, diagram.rows.length ≤ time →
      diagram.timeline.snapshot? name time = none) := by
  refine ⟨?_, ?_, ?_, fun _ _ _ => Diagram.rows_without_prefix,
    Timeline.column?_eq_none_iff diagram, Timeline.column?_eq_some diagram,
    Timeline.snapshot?_eq diagram, ?_⟩
  · intro none
    simp [Diagram.rows_eq, diagram.timeCount_eq_zero none]
  · intro last found
    simp [Diagram.rows_eq, diagram.timeCount_eq found]
  · intro time row found
    obtain rfl := Timeline.row_of_rows diagram time found
    exact ⟨rfl, Table.keys_mapValues _ _,
      fun name declared => Timeline.get?_rowAt diagram name time declared⟩
  · intro name time beyond
    exact Timeline.snapshot?_of_none diagram name time (List.getElem?_eq_none_iff.mpr beyond)

end Chronogram
