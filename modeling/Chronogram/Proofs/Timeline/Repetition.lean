import Chronogram.Proofs.Timeline.ForwardFill

/-!
Observations that repeat a state.

An observation of a lifeline in the state that it has anyway changes no state, neither at its time
nor later, because what is carried forward behind it is what was carried forward before. In the dense
rows it leaves its mark and nothing else.
-/

namespace Chronogram

def Snapshot.observed (snapshot : Snapshot) : Snapshot :=
  { snapshot with significant := true }

/-- A row in which a lifeline is observed in the state that it has. -/
def Row.observe (name : String) (row : Row) : Row :=
  { row with states := row.states.modify name Snapshot.observed }

namespace Diagram

def observing (diagram : Diagram) (tick : Tick) : Diagram :=
  { diagram with ticks := diagram.ticks ++ [tick] }

/-- Observe a lifeline in the state that it has at a time. -/
def repeating (diagram : Diagram) (name : String) (time : Nat) : Diagram :=
  diagram.observing ⟨time, name, (diagram.snapshotAt name time).state⟩

variable (diagram : Diagram) (name : String) (time : Nat)

theorem stateBefore_zero : diagram.stateBefore name 0 = 0 := by
  rw [stateBefore, latestTime?_zero, Option.bind_none, Option.getD_none]

theorem stateBefore_succ :
    diagram.stateBefore name (time + 1) = (diagram.snapshotAt name time).state :=
  (diagram.carried_state name (time + 1)).symm

theorem snapshotAt_of_observed {state : Nat} (found : diagram.observed? name time = some state) :
    diagram.snapshotAt name time = ⟨state, true⟩ := by
  rw [snapshotAt, found]

theorem snapshotAt_of_unobserved (missing : diagram.observed? name time = none) :
    diagram.snapshotAt name time = ⟨diagram.stateBefore name time, false⟩ := by
  rw [snapshotAt, missing]

theorem observed?_observing_self (state : Nat) :
    (diagram.observing ⟨time, name, state⟩).observed? name time = some state := by
  simp [observed?, observing]

theorem observed?_observing_of_ne {tick : Tick}
    (elsewhere : ¬(tick.lifeline = name ∧ tick.time = time)) :
    (diagram.observing tick).observed? name time = diagram.observed? name time := by
  have passedBy : ¬(tick.time = time ∧ tick.lifeline = name) := fun here => elsewhere here.symm
  simp [observed?, observing, passedBy]

variable {name time}

theorem state_repeating_of_stateBefore {other : String} {when : Nat}
    (same : (diagram.repeating name time).stateBefore other when =
      diagram.stateBefore other when) :
    ((diagram.repeating name time).snapshotAt other when).state =
      (diagram.snapshotAt other when).state := by
  by_cases here : name = other ∧ time = when
  · obtain ⟨rfl, rfl⟩ := here
    rw [repeating, snapshotAt_of_observed _ _ _ (diagram.observed?_observing_self name time _)]
  · have kept : (diagram.repeating name time).observed? other when =
        diagram.observed? other when := diagram.observed?_observing_of_ne other when here
    cases found : diagram.observed? other when with
    | none =>
        rw [snapshotAt_of_unobserved _ _ _ (kept.trans found),
          snapshotAt_of_unobserved _ _ _ found, same]
    | some state =>
        rw [snapshotAt_of_observed _ _ _ (kept.trans found), snapshotAt_of_observed _ _ _ found]

/-- What is carried forward to any time is what was carried forward to it before. -/
theorem stateBefore_repeating (other : String) (when : Nat) :
    (diagram.repeating name time).stateBefore other when = diagram.stateBefore other when := by
  induction when with
  | zero => rw [stateBefore_zero, stateBefore_zero]
  | succ when inductionHypothesis =>
      rw [stateBefore_succ, stateBefore_succ]
      exact diagram.state_repeating_of_stateBefore inductionHypothesis

theorem snapshotAt_repeating_self :
    (diagram.repeating name time).snapshotAt name time =
      (diagram.snapshotAt name time).observed := by
  rw [repeating, snapshotAt_of_observed _ _ _ (diagram.observed?_observing_self name time _)]
  rfl

theorem snapshotAt_repeating_of_ne {other : String} {when : Nat}
    (elsewhere : ¬(name = other ∧ time = when)) :
    (diagram.repeating name time).snapshotAt other when = diagram.snapshotAt other when := by
  have kept : (diagram.repeating name time).observed? other when =
      diagram.observed? other when := diagram.observed?_observing_of_ne other when elsewhere
  simp only [snapshotAt, kept, stateBefore_repeating]

theorem rowAt_repeating_self :
    (diagram.repeating name time).rowAt time = (diagram.rowAt time).observe name := by
  simp only [rowAt, Row.observe, Table.modify, Table.mapValues_mapValues, Row.mk.injEq, true_and]
  refine Table.mapValues_congr fun other _ _ => ?_
  by_cases same : other = name
  · subst same
    rw [if_pos rfl, snapshotAt_repeating_self]
  · rw [if_neg same, diagram.snapshotAt_repeating_of_ne fun here => same here.1.symm]

theorem rowAt_repeating_of_ne {when : Nat} (elsewhere : time ≠ when) :
    (diagram.repeating name time).rowAt when = diagram.rowAt when := by
  simp only [rowAt, Row.mk.injEq, true_and]
  refine Table.mapValues_congr fun other _ _ => ?_
  exact diagram.snapshotAt_repeating_of_ne fun here => elsewhere here.2

theorem lt_timeCount_iff {when : Nat} :
    when < diagram.timeCount ↔ ∃ tick ∈ diagram.ticks, when ≤ tick.time := by
  cases found : (diagram.ticks.map Tick.time).max? with
  | none =>
      have empty : diagram.ticks = [] := List.map_eq_nil_iff.mp (List.max?_eq_none_iff.mp found)
      simp [timeCount, empty]
  | some last =>
      obtain ⟨reached, bound⟩ := List.max?_eq_some_iff.mp found
      rw [timeCount_eq _ found, Nat.lt_succ_iff]
      constructor
      · intro within
        obtain ⟨tick, membership, rfl⟩ := List.mem_map.mp reached
        exact ⟨tick, membership, within⟩
      · rintro ⟨tick, membership, within⟩
        exact Nat.le_trans within (bound _ (List.mem_map_of_mem membership))

/-- An observation at a time that is reached already reaches no further. -/
theorem timeCount_repeating (reached : time < diagram.timeCount) :
    (diagram.repeating name time).timeCount = diagram.timeCount := by
  refine Nat.le_antisymm (Nat.le_of_not_lt fun further => ?_) ?_
  · obtain ⟨tick, membership, beyond⟩ := (lt_timeCount_iff _).mp further
    rcases List.mem_append.mp membership with earlier | added
    · exact Nat.lt_irrefl _ (diagram.lt_timeCount_iff.mpr ⟨tick, earlier, beyond⟩)
    · rw [List.mem_singleton.mp added] at beyond
      exact Nat.not_lt_of_le beyond reached
  · exact timeCount_le_of_subset (List.subset_append_left _ _)

/-- Repeating a state marks one snapshot of the dense rows. -/
theorem rows_repeating (reached : time < diagram.timeCount) :
    (diagram.repeating name time).rows = diagram.rows.modify time (Row.observe name) := by
  refine List.ext_getElem? fun when => ?_
  rw [rows_eq, rows_eq, timeCount_repeating diagram reached]
  by_cases here : time = when
  · subst here
    rw [List.getElem?_modify_eq, List.getElem?_map, List.getElem?_map, List.getElem?_range reached]
    exact congrArg some diagram.rowAt_repeating_self
  · rw [List.getElem?_modify_ne _ _ here, List.getElem?_map, List.getElem?_map]
    rcases Nat.lt_or_ge when diagram.timeCount with within | beyond
    · rw [List.getElem?_range within]
      exact congrArg some (diagram.rowAt_repeating_of_ne here)
    · rw [List.getElem?_eq_none (by simpa using beyond)]
      rfl

end Diagram

/-! The columns of a time line in which one snapshot has been marked. -/

namespace Timeline

/-- A time line in which a lifeline is observed at a time in the state that it has. -/
def marking (timeline : Timeline) (name : String) (time : Nat) : Timeline :=
  { timeline with rows := timeline.rows.modify time (Row.observe name) }

variable (timeline : Timeline) (name : String) (time : Nat)

theorem tickCount_marking : (timeline.marking name time).tickCount = timeline.tickCount := by
  simp [tickCount, marking]

/-- What does not see the mark in a row does not see it in the time line. -/
theorem map_rows_marking {β : Type} {f : Row → β} (blind : ∀ row, f (row.observe name) = f row) :
    (timeline.marking name time).rows.map f = timeline.rows.map f := by
  refine List.ext_getElem? fun when => ?_
  rw [marking, List.getElem?_map, List.getElem?_map]
  by_cases here : time = when
  · subst here
    rw [List.getElem?_modify_eq, Option.map_eq_map, Option.map_map]
    exact congrArg (timeline.rows[time]?.map ·) (funext blind)
  · rw [List.getElem?_modify_ne _ _ here]

theorem column_marking_of_ne {other : String} (differs : other ≠ name) :
    (timeline.marking name time).column other = timeline.column other := by
  have blind : ∀ row : Row, ((row.observe name).states.get? other).getD Snapshot.initial =
      (row.states.get? other).getD Snapshot.initial := by
    intro row
    rw [Row.observe, Table.get?_modify_of_ne _ differs]
  rw [column, column?, map_rows_marking timeline name time blind]
  rfl

theorem states_column_marking (other : String) :
    ((timeline.marking name time).column other).map Snapshot.state =
      (timeline.column other).map Snapshot.state := by
  have blind : ∀ row : Row,
      (((row.observe name).states.get? other).getD Snapshot.initial).state =
        ((row.states.get? other).getD Snapshot.initial).state := by
    intro row
    by_cases same : other = name
    · rw [same, Row.observe, Table.get?_modify_self]
      cases row.states.get? name <;> rfl
    · rw [Row.observe, Table.get?_modify_of_ne _ same]
  by_cases declared : other ∈ timeline.lifelines.keys
  · have kept : (timeline.marking name time).rows.map (fun row =>
        ((row.states.get? other).getD Snapshot.initial).state) =
          timeline.rows.map fun row => ((row.states.get? other).getD Snapshot.initial).state :=
      map_rows_marking timeline name time blind
    simpa [column, column?, declared, marking, Function.comp_def] using kept
  · simp [column, column?, declared, marking]

end Timeline

theorem Diagram.timeline_repeating (diagram : Diagram) {name : String} {time : Nat}
    (reached : time < diagram.timeCount) :
    (diagram.repeating name time).timeline = diagram.timeline.marking name time := by
  rw [Timeline.marking, timeline, rows_repeating diagram reached]
  rfl

end Chronogram
