import Chronogram.Proofs.Diagram.Edit
import Chronogram.Proofs.Diagram.InPlace

/-!
Independent lines may be exchanged.

Two lines of different kinds only get in each other's way if one declares or labels what the other
one looks up. All others come to the same answers in either order and leave the same draft: neither
edit changes what the other line looks at, and the edits themselves commute.
-/

namespace Chronogram

open Source

/-- The pairs of kinds of which the second looks up what the first one declares. -/
def StatementKind.ordered : List (StatementKind × StatementKind) :=
  [(.lifeline, .style), (.lifeline, .state), (.lifeline, .tick), (.state, .tick)]

/-- The kinds of two lines differ, and neither line looks up what the other one declares. A line
that is no statement has no kind. -/
def Independent (first second : Option StatementKind) : Prop :=
  first ≠ second ∧ ∀ pair ∈ StatementKind.ordered,
    ¬(first = some pair.1 ∧ second = some pair.2) ∧ ¬(first = some pair.2 ∧ second = some pair.1)

instance (first second : Option StatementKind) : Decidable (Independent first second) :=
  inferInstanceAs (Decidable (_ ∧ _))

theorem Independent.symm {first second : Option StatementKind}
    (independent : Independent first second) : Independent second first := by
  refine ⟨independent.1.symm, fun pair listed => ?_⟩
  obtain ⟨forward, backward⟩ := independent.2 pair listed
  exact ⟨backward ∘ And.symm, forward ∘ And.symm⟩

namespace Table

variable {α : Type}

/-- Changes of values that commute may be made under any names in either order. -/
theorem modify_comm {f g : α → α} (commute : ∀ value, f (g value) = g (f value))
    (first second : String) (table : Table α) :
    (table.modify first f).modify second g = (table.modify second g).modify first f := by
  simp only [modify, mapValues_mapValues]
  refine mapValues_congr fun key _ value => ?_
  split_ifs
  · exact (commute value).symm
  all_goals rfl

end Table

namespace Edit

variable {kind other : Option StatementKind} {edit change : Edit}

/-- Restyling and relabelling change different parts of a lifeline. -/
theorem perform_restyle_relabel (name : String) (style : LifelineStyle) (other label : String)
    (index : Nat) (draft : Draft) :
    perform (.lifelines (·.modify name (·.restyle style)))
        (perform (.lifelines (·.modify other (·.relabel index label))) draft) =
      perform (.lifelines (·.modify other (·.relabel index label)))
        (perform (.lifelines (·.modify name (·.restyle style))) draft) := by
  have apart : ∀ lifeline : Lifeline,
      (lifeline.restyle style).relabel index label = (lifeline.relabel index label).restyle style :=
    fun _ => rfl
  simp only [perform, onDiagram, onWarnings, Table.modify_comm apart]

theorem perform_comm (of : Of kind edit) (ofOther : Of other change)
    (independent : Independent kind other) (draft : Draft) :
    edit.perform (change.perform draft) = change.perform (edit.perform draft) := by
  cases of with
  | declare =>
      cases ofOther with
      | declare | restyle | relabel => exact absurd independent (by decide)
      | _ => rfl
  | restyle name style =>
      cases ofOther with
      | declare | restyle => exact absurd independent (by decide)
      | relabel => exact perform_restyle_relabel ..
      | _ => rfl
  | relabel name label index =>
      cases ofOther with
      | declare | relabel => exact absurd independent (by decide)
      | restyle => exact (perform_restyle_relabel ..).symm
      | _ => rfl
  | _ =>
      -- Of the kinds that are left, each has a part of the draft to itself.
      cases ofOther <;> first | rfl | exact absurd independent (by decide)

/-- What a line looks at is not changed by the edit of an independent line. -/
theorem looksSame_perform (of : Of kind edit) (independent : Independent kind other)
    (draft : Draft) :
    Diagram.LooksSame draft.diagram.lifelines (edit.perform draft).diagram.lifelines other := by
  rcases other with _ | looking
  · trivial
  cases looking with
  | style | state =>
      cases of with
      | declare => exact absurd independent (by decide)
      | restyle | relabel => exact (Table.keys_modify ..).symm
      | _ => rfl
  | tick =>
      intro asked
      cases of with
      | declare | relabel => exact absurd independent (by decide)
      | restyle name style =>
          by_cases here : asked = name
          · subst here
            simp [perform, onDiagram, Table.get?_modify_self, Lifeline.restyle, Function.comp_def]
          · simp [perform, onDiagram, Table.get?_modify_of_ne _ here]
      | _ => rfl
  | _ => trivial

end Edit

namespace Draft

variable {mode : Mode} {draft final : Draft} {first second : Line} {edit : Edit}

/-- An independent line decides the same before and after an edit. -/
theorem decision_perform (decided : draft.decision mode first = .ok edit)
    (independent : Independent first.kind? second.kind?) :
    (edit.perform draft).decision mode second = draft.decision mode second :=
  (decision_congr (Edit.looksSame_perform (of_decision decided) independent draft)).symm

theorem steps_cons_eq_ok_iff {line : Line} {rest : List Line} :
    steps mode draft (line :: rest) = .ok final ↔
      ∃ edit, draft.decision mode line = .ok edit ∧
        steps mode (edit.perform draft) rest = .ok final := by
  simp only [steps, step_eq_decision]
  cases draft.decision mode line <;> simp

theorem steps_exchange {rest : List Line} (independent : Independent first.kind? second.kind?)
    (taken : steps mode draft (first :: second :: rest) = .ok final) :
    steps mode draft (second :: first :: rest) = .ok final := by
  obtain ⟨edit, decided, takenSecond⟩ := steps_cons_eq_ok_iff.mp taken
  obtain ⟨change, decidedAfter, takenRest⟩ := steps_cons_eq_ok_iff.mp takenSecond
  have decidedSecond : draft.decision mode second = .ok change := by
    rw [← decision_perform decided independent, decidedAfter]
  have decidedFirst : (change.perform draft).decision mode first = .ok edit := by
    rw [decision_perform decidedSecond independent.symm, decided]
  rw [← Edit.perform_comm (of_decision decided) (of_decision decidedSecond) independent] at takenRest
  exact steps_cons_eq_ok_iff.mpr
    ⟨change, decidedSecond, steps_cons_eq_ok_iff.mpr ⟨edit, decidedFirst, takenRest⟩⟩

theorem steps_moveFront {line : Line} {before after : List Line}
    (independent : ∀ other ∈ before, Independent other.kind? line.kind?)
    (taken : steps mode draft (before ++ line :: after) = .ok final) :
    steps mode draft (line :: (before ++ after)) = .ok final := by
  induction before generalizing draft with
  | nil => exact taken
  | cons other before inductionHypothesis =>
      obtain ⟨independentOther, independentRest⟩ := List.forall_mem_cons.mp independent
      obtain ⟨edit, decided, takenRest⟩ := steps_cons_eq_ok_iff.mp taken
      have moved := inductionHypothesis independentRest takenRest
      exact steps_exchange independentOther (steps_cons_eq_ok_iff.mpr ⟨edit, decided, moved⟩)

end Draft

namespace Builder

theorem answer_takeIn_eq_decision (mode : Mode) (draft : Draft) (line : Line) :
    answer (takeIn mode line) draft =
      match draft.decision mode line with
      | .ok edit => (.ok line.kind?, edit.perform draft)
      | .error fault => (.error fault, draft) := by
  rw [answer_takeIn, Draft.step_eq_decision]
  cases draft.decision mode line <;> rfl

/-- Two lines may be exchanged at a draft: whichever comes first, each line gets the answer that it
gets alone, and the draft that is left is the same. -/
structure Exchangeable (mode : Mode) (draft : Draft) (first second : Line) : Prop where
  firstAnswer : (answer (takeIn mode first) (answer (takeIn mode second) draft).2).1 =
    (answer (takeIn mode first) draft).1
  secondAnswer : (answer (takeIn mode second) (answer (takeIn mode first) draft).2).1 =
    (answer (takeIn mode second) draft).1
  left : (answer (takeIn mode second) (answer (takeIn mode first) draft).2).2 =
    (answer (takeIn mode first) (answer (takeIn mode second) draft).2).2

variable {mode : Mode} {draft : Draft} {first second : Line}

theorem answer_after (independent : Independent first.kind? second.kind?) :
    (answer (takeIn mode second) (answer (takeIn mode first) draft).2).1 =
      (answer (takeIn mode second) draft).1 := by
  cases decided : draft.decision mode first with
  | error fault => simp only [answer_takeIn_eq_decision, decided]
  | ok edit =>
      simp only [answer_takeIn_eq_decision, decided, Draft.decision_perform decided independent]
      cases draft.decision mode second <;> rfl

theorem exchangeable_of_independent (independent : Independent first.kind? second.kind?) :
    Exchangeable mode draft first second := by
  refine ⟨answer_after independent.symm, answer_after independent, ?_⟩
  cases decided : draft.decision mode first with
  | error fault =>
      cases decidedSecond : draft.decision mode second with
      | error other => simp only [answer_takeIn_eq_decision, decided, decidedSecond]
      | ok change =>
          have still := Draft.decision_perform decidedSecond independent.symm
          simp only [answer_takeIn_eq_decision, decided, decidedSecond, still]
  | ok edit =>
      have still := Draft.decision_perform decided independent
      cases decidedSecond : draft.decision mode second with
      | error other => simp only [answer_takeIn_eq_decision, decided, decidedSecond, still]
      | ok change =>
          have stillFirst := Draft.decision_perform decidedSecond independent.symm
          have commute := Edit.perform_comm (Draft.of_decision decided)
            (Draft.of_decision decidedSecond) independent draft
          simp only [answer_takeIn_eq_decision, decided, decidedSecond, still, stillFirst, commute]

end Builder

end Chronogram
