import Chronogram.Proofs.Checked.Reading
import Chronogram.Proofs.Diagram.WellBuilt
import Chronogram.Proofs.Timeline.ForwardFill

/-!
Building with checked steps.

A catalog grows to the size that its new label needs, and the dense rows are counted up from the
last observation. Both numbers fit a word because of the limits that statements keep to: no label
stands above index 4096, and no observation after time 100000.
-/

namespace Chronogram

open Text Source Guarded

namespace Checked

/-- Open holes until a catalog has a size, and store the label. -/
def insert (catalog : Catalog) (index : Nat) (label : String) : Checked Catalog := do
  let size ← if catalog.slots.length ≤ index then plus index 1 else .ok catalog.slots.length
  let opened := catalog.slots ++ List.replicate (size - catalog.slots.length) none
  let slots ← replace opened index (some label)
  .ok ⟨slots⟩

theorem insert_of_lt (catalog : Catalog) {index : Nat} (label : String)
    (fits : index + 1 < Numeral.wordBound) :
    insert catalog index label = .ok (catalog.insert index label) := by
  unfold insert Catalog.insert
  by_cases within : index < catalog.slots.length
  · have kept : ¬catalog.slots.length ≤ index := Nat.not_le.mpr within
    rw [if_neg kept, if_pos within]
    simp only [bind, Except.bind, Nat.sub_self, List.replicate_zero, List.append_nil,
      replace_of_lt within]
  · have beyond : catalog.slots.length ≤ index := Nat.le_of_not_lt within
    have opened : (catalog.slots ++ List.replicate (index - catalog.slots.length) none).length =
        index := by
      rw [List.length_append, List.length_replicate]
      omega
    have holes : List.replicate (index + 1 - catalog.slots.length) (none : Option String) =
        List.replicate (index - catalog.slots.length) none ++ [none] := by
      rw [Nat.succ_sub beyond, List.replicate_succ']
    have room : index < (catalog.slots ++
        List.replicate (index + 1 - catalog.slots.length) none).length := by
      rw [holes, ← List.append_assoc, List.length_append, opened]
      exact Nat.lt_succ_self index
    rw [if_pos beyond, if_neg within, plus_of_lt fits]
    simp only [bind, Except.bind, replace_of_lt room]
    rw [holes, ← List.append_assoc, List.set_append_right _ _ (Nat.le_of_eq opened), opened,
      Nat.sub_self]
    rfl

def setState (diagram : Diagram) (name label token : String) : Guarded Fault Diagram := do
  let index ← given (numberOf token)
  given (checkLimit .stateIndex index)
  let found ← given (diagram.declared name)
  let states ← take (insert found.states index label)
  return diagram.modifyLifeline name fun lifeline => { lifeline with states }

theorem yields_setState (diagram : Diagram) (name label token : String) :
    Yields (setState diagram name label token) (diagram.setState name label token) := by
  refine (yields_given (numberOf token)).bind fun index _ => ?_
  refine (yields_given (checkLimit .stateIndex index)).bind fun _ checked => ?_
  refine (yields_given (diagram.declared name)).bind fun found declared => ?_
  have bounded : index ≤ 4096 := Diagram.le_of_checkLimit checked
  have fits : index + 1 < Numeral.wordBound :=
    Nat.lt_of_le_of_lt (Nat.succ_le_succ bounded) (by decide)
  refine Yields.afterStep (insert_of_lt found.states label fits) ?_
  have stored : diagram.lifelines.get? name = some found := Diagram.get?_of_declared declared
  have changed : diagram.modifyLifeline name (fun lifeline =>
        { lifeline with states := found.states.insert index label }) =
      diagram.modifyLifeline name fun lifeline =>
        { lifeline with states := lifeline.states.insert index label } := by
    rw [Diagram.modifyLifeline, Diagram.modifyLifeline, Table.modify_congr stored]
    rfl
  rw [changed]
  exact yields_pure _

/-- Carry out a statement. Storing labels is the only thing that can go wrong. -/
def apply (diagram : Diagram) : Statement → Guarded Fault Diagram
  | .state name label index => setState diagram (fieldMarkup name) (fieldMarkup label) index
  | read => given (diagram.apply read)

theorem yields_apply (diagram : Diagram) (read : Statement) :
    Yields (apply diagram read) (diagram.apply read) := by
  cases read with
  | state name label index => exact yields_setState diagram _ _ index
  | _ => exact yields_given _

def step (mode : Mode) (draft : Draft) (line : Line) :
    Guarded LineFault (Draft × Option StatementKind) :=
  match split? line.text with
  | some (kind, fields) => do
      take (exclusive line.text)
      let read ← take (statement fields kind)
      let diagram ← (apply draft.diagram read).renameFault fun fault => ⟨line.number, fault⟩
      return ({ draft with diagram }, some kind)
  | none =>
      match mode with
      | .strict => throw ⟨line.number, .unrecognizedStatement line.text⟩
      | .lenient =>
          return ({ draft with warnings := draft.warnings ++ [⟨line.number, line.text⟩] }, none)

theorem yields_step (mode : Mode) (draft : Draft) (line : Line) :
    Yields (step mode draft line) (draft.step mode line) := by
  unfold step Draft.step
  rw [split?_eq]
  cases found : Statement.read? line.text with
  | none => cases mode <;> rfl
  | some read =>
      refine Yields.afterStep (exclusive_of_read? found) ?_
      refine Yields.afterStep (statement_fields read) ?_
      have applied := (yields_apply draft.diagram read).renameFault fun fault =>
        (⟨line.number, fault⟩ : LineFault)
      have carried := applied.bind fun diagram _ =>
        yields_pure (({ draft with diagram } : Draft), some read.kind)
      cases result : draft.diagram.apply read <;>
        · simp only [result] at carried ⊢
          exact carried

def steps (mode : Mode) : Draft → List Line → Guarded LineFault Draft
  | draft, [] => return draft
  | draft, line :: rest => do
      let (next, _) ← step mode draft line
      steps mode next rest

theorem yields_steps (mode : Mode) (draft : Draft) (lines : List Line) :
    Yields (steps mode draft lines) (Draft.steps mode draft lines) := by
  induction lines generalizing draft with
  | nil => exact yields_pure draft
  | cons line rest inductionHypothesis =>
      have taken := (yields_step mode draft line).bind fun pair _ => inductionHypothesis pair.1
      unfold Draft.steps
      cases result : draft.step mode line <;> rwa [result] at taken

/-! ### Rows -/

def timeCount (ticks : List Tick) : Checked Nat :=
  match (ticks.map Tick.time).max? with
  | some last => plus last 1
  | none => .ok 0

def timeline (diagram : Diagram) : Checked Timeline := do
  let count ← timeCount diagram.ticks
  let rows := (RowBuilder.run diagram.lifelines diagram.ticks count).rows.reverse
  .ok { diagram.timeline with rows }

end Checked

theorem Diagram.WellBuilt.timeCount_le {diagram : Diagram} (wellBuilt : diagram.WellBuilt) :
    diagram.timeCount ≤ 100001 := by
  cases found : (diagram.ticks.map Tick.time).max? with
  | none => simp [timeCount, found]
  | some last =>
      obtain ⟨tick, observed, same⟩ := List.mem_map.mp (List.max?_mem found)
      have early := (wellBuilt.ticks tick observed).time
      rw [timeCount_eq diagram found]
      omega

namespace Checked

theorem timeline_eq {diagram : Diagram} (wellBuilt : diagram.WellBuilt) :
    timeline diagram = .ok diagram.timeline := by
  have counted : timeCount diagram.ticks = .ok diagram.timeCount := by
    have early := wellBuilt.timeCount_le
    unfold timeCount Diagram.timeCount at *
    cases found : (diagram.ticks.map Tick.time).max? with
    | none => rfl
    | some last =>
        rw [found] at early
        exact plus_of_lt (Nat.lt_of_le_of_lt early (by decide))
  rw [timeline, counted]
  rfl

end Checked

end Chronogram
