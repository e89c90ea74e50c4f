import Chronogram.Compiler
import Chronogram.Proofs.Diagram.Effect
import Mathlib.Logic.Relation

/-!
What building a diagram can do.

Each statement that is carried out changes one part of the diagram. The ways in which it can do so
are listed once; what every change keeps holds of every diagram that is read from a text.
-/

namespace Chronogram

namespace Diagram

/-- The ways in which a statement changes a diagram. -/
inductive Change (diagram : Diagram) : Diagram → Prop where
  | configure (config : Config) : Change diagram { diagram with config }
  | entitle (title : String) : Change diagram { diagram with title }
  | declare (name : String) : Change diagram (diagram.declare name)
  | restyle (name : String) (style : LifelineStyle) (declared : name ∈ diagram.lifelines.keys) :
      Change diagram (diagram.modifyLifeline name fun lifeline => { lifeline with style })
  | relabel (name label : String) (index : Nat) (declared : name ∈ diagram.lifelines.keys)
      (bounded : index ≤ Limit.stateIndex.greatest) :
      Change diagram (diagram.modifyLifeline name fun lifeline =>
        { lifeline with states := lifeline.states.insert index label })
  | observe (tick : Tick) (declared : tick.lifeline ∈ diagram.lifelines.keys)
      (bounded : tick.time ≤ Limit.tickTime.greatest) :
      Change diagram { diagram with ticks := diagram.ticks ++ [tick] }
  | addSpan (span : Span) : Change diagram { diagram with spans := diagram.spans ++ [span] }
  | addArrow (arrow : Arrow) : Change diagram { diagram with arrows := diagram.arrows ++ [arrow] }

/-- A statement that is carried out makes one of the listed changes. -/
theorem change_of_apply {diagram next : Diagram} {statement : Statement}
    (applied : diagram.apply statement = .ok next) : Change diagram next := by
  cases effect_of_apply applied with
  | keepConfig => exact .configure diagram.config
  | configure _ _ setting => exact .configure (diagram.config.set setting)
  | entitle text => exact .entitle (fieldMarkup text)
  | keepLifeline name known =>
      have declared : Change diagram (diagram.declare (fieldMarkup name)) := .declare _
      simpa [declare, known] using declared
  | declare name fresh =>
      have declared : Change diagram (diagram.declare (fieldMarkup name)) := .declare _
      simpa [Diagram.declare, Table.insert, fresh] using declared
  | restyle name _ style known => exact .restyle (fieldMarkup name) style known
  | relabel name label _ index known _ bounded =>
      exact .relabel (fieldMarkup name) (fieldMarkup label) index known bounded
  | observe _ name _ time index lifeline declared _ bounded =>
      exact .observe ⟨time, fieldMarkup name, index⟩ (mem_keys_of_declared declared) bounded
  | addSpan name _ _ label originTick destTick =>
      exact .addSpan ⟨fieldMarkup name, originTick, destTick, fieldMarkup label⟩
  | addArrow _ arrow => exact .addArrow arrow

end Diagram

namespace Draft

open Relation Diagram

variable {mode : Mode} {draft final : Draft}

/-- A line changes the diagram in one of the listed ways, or it leaves the diagram alone. -/
theorem changes_of_step {line : Source.Line} {kind : Option StatementKind}
    (taken : draft.step mode line = .ok (final, kind)) :
    ReflGen Change draft.diagram final.diagram := by
  unfold step at taken
  cases found : Statement.read? line.text with
  | some statement =>
      cases applied : draft.diagram.apply statement with
      | error fault => simp [found, applied] at taken
      | ok diagram =>
          simp only [found, applied, Except.ok.injEq, Prod.mk.injEq] at taken
          obtain ⟨rfl, -⟩ := taken
          exact .single (change_of_apply applied)
  | none =>
      cases mode with
      | strict => simp [found] at taken
      | lenient =>
          simp only [found, Except.ok.injEq, Prod.mk.injEq] at taken
          obtain ⟨rfl, -⟩ := taken
          exact .refl

theorem changes_of_steps {lines : List Source.Line} (taken : steps mode draft lines = .ok final) :
    ReflTransGen Change draft.diagram final.diagram := by
  induction lines generalizing draft with
  | nil =>
      cases taken
      exact .refl
  | cons line rest inductionHypothesis =>
      unfold steps at taken
      cases first : draft.step mode line with
      | error fault => simp [first] at taken
      | ok answer =>
          obtain ⟨next, kind⟩ := answer
          simp only [first] at taken
          exact (changes_of_step first).to_reflTransGen.trans (inductionHypothesis taken)

end Draft

/-- What holds of the blank diagram and is kept by each change holds of every diagram that is read
from a text. -/
theorem Settings.holds_of_draft {settings : Settings} {text : String} {draft : Draft}
    {property : Diagram → Prop} (parsed : settings.draft text = .ok draft)
    (initially : property (Diagram.blank settings.site))
    (kept : ∀ diagram next, Diagram.Change diagram next → property diagram → property next) :
    property draft.diagram := by
  have holds : ∀ {before after}, Relation.ReflTransGen Diagram.Change before after →
      property before → property after := by
    intro before after changes holdsBefore
    induction changes with
    | refl => exact holdsBefore
    | tail _ change inductionHypothesis => exact kept _ _ change inductionHypothesis
  exact holds (Draft.changes_of_steps parsed) initially

namespace Diagram

/-- Every lifeline is stored under its own name. -/
def Named (diagram : Diagram) : Prop :=
  ∀ entry ∈ diagram.lifelines.entries, entry.2.name = entry.1

instance (diagram : Diagram) : Decidable diagram.Named :=
  inferInstanceAs (Decidable (∀ entry ∈ diagram.lifelines.entries, entry.2.name = entry.1))

theorem named_blank (config : Config) : (blank config).Named := by
  simp [Named, blank, Table.empty]

/-- Rebuilding a lifeline under its old name keeps all names. -/
theorem Named.modifyLifeline {diagram : Diagram} (named : diagram.Named) (name : String)
    {f : Lifeline → Lifeline} (kept : ∀ lifeline, (f lifeline).name = lifeline.name) :
    (diagram.modifyLifeline name f).Named := by
  refine Table.forall_modify (fun key (lifeline : Lifeline) => lifeline.name = key) named ?_
  intro lifeline namedBefore
  exact (kept lifeline).trans namedBefore

theorem Named.declare {diagram : Diagram} (named : diagram.Named) (name : String) :
    (diagram.declare name).Named := by
  unfold Diagram.declare
  by_cases known : name ∈ diagram.lifelines.keys
  · simpa [known] using named
  · simp only [Table.contains_iff, known, ↓reduceIte, Table.insert, ↓reduceDIte]
    exact Table.forall_append (fun key (lifeline : Lifeline) => lifeline.name = key) known named rfl

theorem Named.change {diagram next : Diagram} (change : Change diagram next)
    (named : diagram.Named) : next.Named := by
  cases change with
  | configure | entitle | observe | addSpan | addArrow => exact named
  | declare name => exact named.declare name
  | restyle name style _ => exact named.modifyLifeline name fun _ => rfl
  | relabel name label index _ _ => exact named.modifyLifeline name fun _ => rfl

end Diagram

/-- Every lifeline of a diagram that is read from a text is stored under its own name. -/
theorem Settings.named_draft {settings : Settings} {text : String} {draft : Draft}
    (parsed : settings.draft text = .ok draft) : draft.diagram.Named :=
  settings.holds_of_draft parsed (Diagram.named_blank _) fun _ _ => Diagram.Named.change

end Chronogram
