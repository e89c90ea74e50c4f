import Chronogram.Diagram.Basic

/-!
Dense time lines.

The observations of a diagram are sparse. Filling them forward gives one row per time from zero to
the time of the last observation, and in each row one snapshot per declared lifeline: the state
observed at that time, or else the state of the row before.
-/

namespace Chronogram

/-- The state of a lifeline at one time. -/
structure Snapshot where
  state : Nat
  /-- Whether the state was observed at this time, and not carried forward. -/
  significant : Bool
  deriving Repr, DecidableEq

def Snapshot.initial : Snapshot := ⟨0, false⟩

instance : Inhabited Snapshot := ⟨Snapshot.initial⟩

/-- The snapshots of all lifelines at one time. -/
structure Row where
  time : Nat
  states : Table Snapshot

/-- The state that the last of some observations gives a lifeline. -/
def lastObserved? (ticks : List Tick) (lifeline : String) : Option Nat :=
  ticks.foldl (fun found tick => if tick.lifeline = lifeline then some tick.state else found) none

def Snapshot.next (ticks : List Tick) (lifeline : String) (previous : Snapshot) : Snapshot :=
  match lastObserved? ticks lifeline with
  | some state => ⟨state, true⟩
  | none => ⟨previous.state, false⟩

/-- Rows under construction: the snapshots so far, and the rows in reverse. -/
structure RowBuilder where
  latest : Table Snapshot
  rows : List Row

def RowBuilder.advance (builder : RowBuilder) (here : List Tick) (time : Nat) : RowBuilder :=
  let latest := builder.latest.mapValues (Snapshot.next here)
  { latest, rows := ⟨time, latest⟩ :: builder.rows }

def ticksByTime (count : Nat) (ticks : List Tick) : Array (List Tick) :=
  ticks.foldr (fun tick times => times.modify tick.time (tick :: ·)) (Array.replicate count [])

@[simp]
theorem size_ticksByTime (count : Nat) (ticks : List Tick) :
    (ticksByTime count ticks).size = count := by
  induction ticks with
  | nil => simp [ticksByTime]
  | cons tick rest inductionHypothesis =>
      simpa [ticksByTime] using inductionHypothesis

/-- The observations of a time are those that the list holds, in the same order. -/
theorem getElem?_ticksByTime {count time : Nat} (ticks : List Tick) (bound : time < count) :
    (ticksByTime count ticks)[time]? = some (ticks.filter fun tick => tick.time = time) := by
  induction ticks with
  | nil => simp [ticksByTime, bound]
  | cons tick rest inductionHypothesis =>
      have step : ticksByTime count (tick :: rest) =
          (ticksByTime count rest).modify tick.time (tick :: ·) := rfl
      rw [step, Array.getElem?_modify, inductionHypothesis]
      by_cases here : tick.time = time <;> simp [here]

def RowBuilder.run (lifelines : Table Lifeline) (ticks : List Tick) (count : Nat) : RowBuilder :=
  let times := ticksByTime count ticks
  (List.range count).foldl (fun builder time => builder.advance (times[time]?.getD []) time)
    ⟨lifelines.mapValues fun _ _ => Snapshot.initial, []⟩

def Diagram.timeCount (diagram : Diagram) : Nat :=
  match (diagram.ticks.map Tick.time).max? with
  | some last => last + 1
  | none => 0

/-- The dense rows of a diagram. -/
def Diagram.rows (diagram : Diagram) : List Row :=
  (RowBuilder.run diagram.lifelines diagram.ticks diagram.timeCount).rows.reverse

/-- A diagram whose observations have been filled forward. -/
structure Timeline where
  title : String
  config : Config
  lifelines : Table Lifeline
  rows : List Row
  spans : List Span
  arrows : List Arrow

/-- Fill the observations of a diagram forward. -/
def Diagram.timeline (diagram : Diagram) : Timeline where
  title := diagram.title
  config := diagram.config
  lifelines := diagram.lifelines
  rows := diagram.rows
  spans := diagram.spans
  arrows := diagram.arrows

namespace Timeline

def tickCount (timeline : Timeline) : Nat :=
  timeline.rows.length

/-- The snapshots of a declared lifeline in the order of time. -/
def column? (timeline : Timeline) (name : String) : Option (List Snapshot) :=
  if timeline.lifelines.contains name then
    some (timeline.rows.map fun row => (row.states.get? name).getD Snapshot.initial)
  else none

/-- The snapshots of a lifeline; a name that is not declared has none. -/
def column (timeline : Timeline) (name : String) : List Snapshot :=
  (timeline.column? name).getD []

def snapshot? (timeline : Timeline) (name : String) (time : Nat) : Option Snapshot :=
  timeline.rows[time]?.bind fun row => row.states.get? name

end Timeline

end Chronogram
