import Chronogram.Layout.Fault
import Chronogram.Proofs.Table
import Chronogram.Timeline

/-!
References of a time line.

A time line can be drawn if each state has a row to be drawn on, and if each span and each end of an
arrow refers to something that is there. Both the condition and the list of everything that violates
it are stated on the time line alone, without any geometry.
-/

namespace Chronogram

/-- Whether a state has a row. A catalog without slots has a row for the initial state. -/
def Catalog.Shows (states : Catalog) (state : Nat) : Prop :=
  (∃ label, states.get? state = some label) ∨ (states.slots = [] ∧ state = 0)

instance (states : Catalog) (state : Nat) : Decidable (states.Shows state) :=
  decidable_of_iff ((states.get? state).isSome ∨ (states.slots = [] ∧ state = 0))
    (by rw [Option.isSome_iff_exists, Catalog.Shows])

/-- Which states have a row depends only on which slots have a label. -/
theorem Catalog.shows_iff {states : Catalog} {state : Nat} :
    states.Shows state ↔ (states.slots.map Option.isSome)[state]? = some true ∨
      (states.slots.map Option.isSome = [] ∧ state = 0) := by
  have labelled : (∃ label, states.get? state = some label) ↔
      (states.slots.map Option.isSome)[state]? = some true := by
    rw [Catalog.get?, List.getElem?_map]
    cases states.slots[state]? with
    | none => simp
    | some slot => cases slot <;> simp
  rw [Shows, labelled, List.map_eq_nil_iff]

namespace Timeline

def stateAt (timeline : Timeline) (name : String) (tick : Nat) : Nat :=
  ((timeline.snapshot? name tick).getD Snapshot.initial).state

/-- Whether the state of a lifeline at a tick differs from that at the tick before. -/
def ChangesAt (timeline : Timeline) (name : String) (tick : Nat) : Prop :=
  0 < tick ∧ timeline.stateAt name tick ≠ timeline.stateAt name (tick - 1)

instance (timeline : Timeline) (name : String) (tick : Nat) :
    Decidable (timeline.ChangesAt name tick) :=
  inferInstanceAs (Decidable (_ ∧ _))

/-- The number of points that a lifeline offers at a tick. A staircase has a second one where it
steps; the two rails of a bus meet in a single one there. -/
def attachmentCount (timeline : Timeline) (lifeline : Lifeline) (tick : Nat) : Nat :=
  match lifeline.style with
  | .simplified => if timeline.ChangesAt lifeline.name tick then 1 else 2
  | .normal | .slice => if timeline.ChangesAt lifeline.name tick then 2 else 1

/-- Whether the end of an arrow refers to a point that is there. -/
def Attaches (timeline : Timeline) (arrowEnd : ArrowEnd) : Prop :=
  ∃ lifeline, timeline.lifelines.get? arrowEnd.lifeline = some lifeline ∧
    arrowEnd.tick < timeline.tickCount ∧
    arrowEnd.slot < timeline.attachmentCount lifeline arrowEnd.tick

/-- Everything that a time line refers to is there. -/
structure Resolves (timeline : Timeline) : Prop where
  /-- Each state of a lifeline that is drawn on rows has one. -/
  states : ∀ lifeline ∈ timeline.lifelines.values, lifeline.style ≠ .simplified →
    ∀ tick < timeline.tickCount, lifeline.states.Shows (timeline.stateAt lifeline.name tick)
  spans : ∀ span ∈ timeline.spans, span.lifeline ∈ timeline.lifelines.keys ∧
    span.originTick < timeline.tickCount ∧ span.destTick < timeline.tickCount
  arrows : ∀ arrow ∈ timeline.arrows, timeline.Attaches arrow.origin ∧ timeline.Attaches arrow.dest

/-- The states of a lifeline that have no row, in the order of ticks. -/
def stateFaults (timeline : Timeline) (lifeline : Lifeline) : List LayoutFault :=
  if lifeline.style = .simplified then []
  else
    (List.range timeline.tickCount).filterMap fun tick =>
      let state := timeline.stateAt lifeline.name tick
      if lifeline.states.Shows state then none
      else some (.unknownState lifeline.name tick state)

/-- What is wrong with a reference to a tick of a lifeline; the lifeline comes first. -/
def tickFault? (timeline : Timeline) (referrer : Referrer) (name : String) (tick : Nat) :
    Option LayoutFault :=
  if name ∉ timeline.lifelines.keys then some (.unknownLifeline referrer name)
  else if timeline.tickCount ≤ tick then
    some (.tickOutOfRange referrer name tick timeline.tickCount)
  else none

/-- What is wrong with a reference to a point of a lifeline that is there. -/
def slotFault? (timeline : Timeline) (arrowEnd : ArrowEnd) (lifeline : Lifeline) :
    Option LayoutFault :=
  let available := timeline.attachmentCount lifeline arrowEnd.tick
  if available ≤ arrowEnd.slot then
    some (.attachmentOutOfRange arrowEnd.lifeline arrowEnd.tick arrowEnd.slot available)
  else none

/-- What is wrong with the end of an arrow; the lifeline and the tick come before the point. -/
def endFault? (timeline : Timeline) (arrowEnd : ArrowEnd) : Option LayoutFault :=
  (timeline.tickFault? .arrow arrowEnd.lifeline arrowEnd.tick).or
    ((timeline.lifelines.get? arrowEnd.lifeline).bind (timeline.slotFault? arrowEnd))

def spanFaults (timeline : Timeline) (span : Span) : List LayoutFault :=
  (timeline.tickFault? .span span.lifeline span.originTick).toList ++
    (timeline.tickFault? .span span.lifeline span.destTick).toList

def arrowFaults (timeline : Timeline) (arrow : Arrow) : List LayoutFault :=
  (timeline.endFault? arrow.origin).toList ++ (timeline.endFault? arrow.dest).toList

/-- Everything that a time line refers to without its being there: first the states of all
lifelines, then the spans, then the arrows, in the order of the text. -/
def faults (timeline : Timeline) : List LayoutFault :=
  timeline.lifelines.values.flatMap timeline.stateFaults ++
    (timeline.spans.flatMap timeline.spanFaults ++ timeline.arrows.flatMap timeline.arrowFaults)

variable {timeline : Timeline}

theorem stateFaults_eq_nil_iff {lifeline : Lifeline} :
    timeline.stateFaults lifeline = [] ↔ (lifeline.style ≠ .simplified →
      ∀ tick < timeline.tickCount, lifeline.states.Shows (timeline.stateAt lifeline.name tick)) := by
  by_cases simplified : lifeline.style = .simplified
  · simp [stateFaults, simplified]
  · simp [stateFaults, simplified]

theorem tickFault?_eq_none_iff {referrer : Referrer} {name : String} {tick : Nat} :
    timeline.tickFault? referrer name tick = none ↔
      name ∈ timeline.lifelines.keys ∧ tick < timeline.tickCount := by
  by_cases declared : name ∈ timeline.lifelines.keys <;> simp [tickFault?, declared]

theorem endFault?_eq_none_iff {arrowEnd : ArrowEnd} :
    timeline.endFault? arrowEnd = none ↔ timeline.Attaches arrowEnd := by
  simp only [endFault?, Option.or_eq_none_iff, tickFault?_eq_none_iff, Attaches]
  cases found : timeline.lifelines.get? arrowEnd.lifeline with
  | none =>
      have absent := Table.get?_eq_none_iff.mp found
      simp [absent]
  | some lifeline =>
      have declared := Table.mem_keys_of_get? found
      simp [slotFault?, declared]

/-- Nothing is wrong with a time line exactly if everything that it refers to is there. -/
theorem faults_eq_nil_iff : timeline.faults = [] ↔ timeline.Resolves := by
  have all : timeline.faults = [] ↔
      (∀ lifeline ∈ timeline.lifelines.values, timeline.stateFaults lifeline = []) ∧
        (∀ span ∈ timeline.spans, timeline.spanFaults span = []) ∧
        ∀ arrow ∈ timeline.arrows, timeline.arrowFaults arrow = [] := by
    simp [faults, List.flatMap_eq_nil_iff]
  rw [all]
  simp only [stateFaults_eq_nil_iff, spanFaults, arrowFaults, List.append_eq_nil_iff,
    Option.toList_eq_nil_iff, tickFault?_eq_none_iff, endFault?_eq_none_iff]
  constructor
  · rintro ⟨states, spans, arrows⟩
    refine ⟨states, fun span membership => ?_, arrows⟩
    obtain ⟨⟨declared, origin⟩, -, dest⟩ := spans span membership
    exact ⟨declared, origin, dest⟩
  · rintro ⟨states, spans, arrows⟩
    refine ⟨states, fun span membership => ?_, arrows⟩
    obtain ⟨declared, origin, dest⟩ := spans span membership
    exact ⟨⟨declared, origin⟩, declared, dest⟩

end Timeline

end Chronogram
