import Chronogram.Proofs.Diagram.Catalog
import Chronogram.Proofs.Diagram.Effect
import Chronogram.Proofs.Diagram.InPlace

/-!
Taking in a line changes one part of a diagram, or nothing.

For each statement there is one part of the diagram that it may change, and one way in which it may
change it. A line that is at fault changes nothing, and a line that is passed over leaves a warning.
None of this removes, renames or reorders what is there, so a draft only grows while lines are taken
in, whatever the lines are.
-/

namespace Chronogram

open Source

/-- One slot has a label that may be new, and all other slots are as before. Slots that were opened
below it are holes, since a slot beyond the end has no label either. -/
structure Catalog.RelabelledAt (index : Nat) (label : String) (before after : Catalog) : Prop where
  relabelled : after.get? index = some label
  others : ∀ other, other ≠ index → after.get? other = before.get? other
  size : after.size = max before.size (index + 1)

namespace Diagram

/-- One lifeline, which is declared, is changed as the relation says; the names, their order, the
other lifelines and the rest of the diagram are as before. -/
structure ChangedAt (name : String) (changed : Lifeline → Lifeline → Prop)
    (before after : Diagram) : Prop where
  elsewhere : after = { before with lifelines := after.lifelines }
  keys : after.lifelines.keys = before.lifelines.keys
  others : ∀ other, other ≠ name → after.lifelines.get? other = before.lifelines.get? other
  named : ∃ lifeline next, before.lifelines.get? name = some lifeline ∧
    after.lifelines.get? name = some next ∧ changed lifeline next

/-- What a statement may change. -/
def Confined (before after : Diagram) : Statement → Prop
  | .config _ _ =>
      after = before ∨
      ∃ setting, after = { before with config := before.config.set setting }
  | .title text => after = { before with title := fieldMarkup text }
  | .lifeline name =>
      fieldMarkup name ∈ before.lifelines.keys ∧ after = before ∨
      fieldMarkup name ∉ before.lifelines.keys ∧
        after = { before with lifelines := after.lifelines } ∧
        after.lifelines.entries =
          before.lifelines.entries ++ [(fieldMarkup name, ⟨fieldMarkup name, .normal, ⟨[]⟩⟩)]
  | .style name _ =>
      ChangedAt (fieldMarkup name) (fun lifeline next => ∃ style, next = { lifeline with style })
        before after
  | .state name label _ =>
      ∃ index, ChangedAt (fieldMarkup name)
        (fun lifeline next => next = { lifeline with states := next.states } ∧
          lifeline.states.RelabelledAt index (fieldMarkup label) next.states)
        before after
  | .tick _ _ _ => ∃ tick, after = { before with ticks := before.ticks ++ [tick] }
  | .span _ _ _ _ => ∃ span, after = { before with spans := before.spans ++ [span] }
  | .arrow _ => ∃ arrow, after = { before with arrows := before.arrows ++ [arrow] }

end Diagram

theorem Catalog.relabelledAt_insert (catalog : Catalog) (index : Nat) (label : String) :
    catalog.RelabelledAt index label (catalog.insert index label) where
  relabelled := by rw [get?_insert, if_pos rfl]
  others := fun other differs => by rw [get?_insert, if_neg differs]
  size := catalog.size_insert index label

namespace Diagram

variable {before after : Diagram}

/-- Rebuilding a declared lifeline changes nothing else. -/
theorem changedAt_modifyLifeline {name : String} {f : Lifeline → Lifeline}
    {changed : Lifeline → Lifeline → Prop} (known : name ∈ before.lifelines.keys)
    (changes : ∀ lifeline, changed lifeline (f lifeline)) :
    ChangedAt name changed before (before.modifyLifeline name f) where
  elsewhere := rfl
  keys := before.lifelines.keys_modify name f
  others := fun _ differs => Table.get?_modify_of_ne f differs
  named := by
    obtain ⟨lifeline, found⟩ := Table.exists_get? known
    refine ⟨lifeline, f lifeline, found, ?_, changes lifeline⟩
    exact (Table.get?_modify_self f).trans (congrArg (Option.map f) found)

theorem Effect.confined {statement : Statement} (effect : Effect before statement after) :
    Confined before after statement := by
  cases effect with
  | keepConfig => exact .inl rfl
  | configure _ _ setting => exact .inr ⟨setting, rfl⟩
  | entitle => exact rfl
  | keepLifeline name known => exact .inl ⟨known, rfl⟩
  | declare name fresh => exact .inr ⟨fresh, rfl, rfl⟩
  | restyle name _ style known =>
      exact changedAt_modifyLifeline known fun _ => ⟨style, rfl⟩
  | relabel name label _ index known =>
      refine ⟨index, changedAt_modifyLifeline known fun lifeline => ⟨rfl, ?_⟩⟩
      exact lifeline.states.relabelledAt_insert index (fieldMarkup label)
  | observe => exact ⟨_, rfl⟩
  | addSpan => exact ⟨_, rfl⟩
  | addArrow _ arrow => exact ⟨arrow, rfl⟩

/-- The keys of the lifelines in order, each with the name of the lifeline that stands there. -/
def naming (diagram : Diagram) : List (String × String) :=
  diagram.lifelines.entries.map fun entry => (entry.1, entry.2.name)

theorem naming_modifyLifeline (diagram : Diagram) (name : String) {f : Lifeline → Lifeline}
    (kept : ∀ lifeline, (f lifeline).name = lifeline.name) :
    (diagram.modifyLifeline name f).naming = diagram.naming := by
  simp only [naming, modifyLifeline, Table.modify, Table.mapValues, List.map_map]
  refine List.map_congr_left fun entry _ => ?_
  by_cases same : entry.1 = name <;> simp [same, kept]

end Diagram

/-- One draft continues another: nothing was removed, renamed or reordered, and what is new stands
at the end. -/
structure Draft.Continues (before after : Draft) : Prop where
  naming : before.diagram.naming <+: after.diagram.naming
  ticks : before.diagram.ticks <+: after.diagram.ticks
  spans : before.diagram.spans <+: after.diagram.spans
  arrows : before.diagram.arrows <+: after.diagram.arrows
  warnings : before.warnings <+: after.warnings

namespace Draft.Continues

variable {first second third : Draft}

theorem refl (draft : Draft) : Continues draft draft :=
  ⟨List.prefix_rfl, List.prefix_rfl, List.prefix_rfl, List.prefix_rfl, List.prefix_rfl⟩

theorem trans (earlier : Continues first second) (later : Continues second third) :
    Continues first third where
  naming := earlier.naming.trans later.naming
  ticks := earlier.ticks.trans later.ticks
  spans := earlier.spans.trans later.spans
  arrows := earlier.arrows.trans later.arrows
  warnings := earlier.warnings.trans later.warnings

theorem of_effect {draft : Draft} {statement : Statement} {diagram : Diagram}
    (effect : draft.diagram.Effect statement diagram) :
    Continues draft { draft with diagram } := by
  have same := refl draft
  cases effect with
  | keepConfig | keepLifeline | configure | entitle => exact { same with }
  | declare name fresh =>
      refine { same with naming := ?_ }
      simp [Diagram.naming, Table.append]
  | restyle name _ style known =>
      refine { same with naming := ?_ }
      simp [Diagram.naming_modifyLifeline]
  | relabel name label _ index known =>
      refine { same with naming := ?_ }
      simp [Diagram.naming_modifyLifeline]
  | observe => exact { same with ticks := List.prefix_append _ _ }
  | addSpan => exact { same with spans := List.prefix_append _ _ }
  | addArrow => exact { same with arrows := List.prefix_append _ _ }

end Draft.Continues

namespace Builder

/-- What may have become of a draft when a line was taken in, by the answer that was given: at a
fault nothing, at a statement what the statement may change, otherwise one warning. -/
def Taken (line : Line) (before : Draft) : Except LineFault (Option StatementKind) × Draft → Prop
  | (.error error, after) => error.line = line.number ∧ after = before
  | (.ok (some kind), after) =>
      after.warnings = before.warnings ∧
      ∃ statement, Statement.read? line.text = some statement ∧ statement.kind = kind ∧
        before.diagram.Confined after.diagram statement
  | (.ok none, after) =>
      Statement.read? line.text = none ∧
      after = { before with warnings := before.warnings ++ [⟨line.number, line.text⟩] }

variable {mode : Mode} {draft : Draft} {line : Line}
  {result : Except LineFault (Option StatementKind) × Draft}

theorem Outcome.taken (outcome : Outcome draft line result) : Taken line draft result := by
  cases outcome with
  | refused fault => exact ⟨rfl, rfl⟩
  | carriedOut statement diagram read effect =>
      exact ⟨rfl, statement, read, rfl, effect.confined⟩
  | passedOver read => exact ⟨read, rfl⟩

theorem Outcome.continues (outcome : Outcome draft line result) : draft.Continues result.2 := by
  cases outcome with
  | refused fault => exact .refl draft
  | carriedOut statement diagram read effect => exact .of_effect effect
  | passedOver read =>
      exact { Draft.Continues.refl draft with warnings := List.prefix_append _ _ }

/-- A draft only grows while lines are taken in. -/
theorem continues_feed (mode : Mode) (draft : Draft) (lines : List Line) :
    draft.Continues (feed mode draft lines) := by
  induction lines generalizing draft with
  | nil => exact .refl draft
  | cons line rest inductionHypothesis =>
      exact (outcome_takeIn mode draft line).continues.trans (inductionHypothesis _)

/-- Taking in a line is atomic and touches one part of the diagram, whatever the draft and the line
are, and so no run of lines takes anything away. -/
theorem taking_in_is_atomic (mode : Mode) (draft : Draft) (line : Line) (lines : List Line) :
    Taken line draft (answer (takeIn mode line) draft) ∧
    draft.Continues (feed mode draft lines) :=
  ⟨(outcome_takeIn mode draft line).taken, continues_feed mode draft lines⟩

end Builder

end Chronogram
