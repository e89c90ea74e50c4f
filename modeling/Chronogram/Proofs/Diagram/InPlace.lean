import Chronogram.Diagram.Builder
import Chronogram.Proofs.Diagram.Effect

/-!
Building in place and building by values agree.

A computation of the builder performs a change of diagrams if it writes what the change gives, or
comes to the fault of the change before it has written anything. Checks may stand in front of such a
computation but not behind it, and that is how all statements are carried out. So taking in a line
in place does what `Draft.step` says, a fault leaves the draft as it was, and there are three ways in
which taking in a line can end.
-/

namespace Chronogram.Builder

variable {α : Type} {number : Nat}

/-- The computation writes what the change gives, or it comes to the fault of the change and has
written nothing. -/
def Performs (number : Nat) (computation : Builder Unit)
    (change : Diagram → Except Fault Diagram) : Prop :=
  ∀ draft, answer computation draft =
    match change draft.diagram with
    | .ok diagram => (.ok (), { draft with diagram })
    | .error fault => (.error ⟨number, fault⟩, draft)

theorem performs_write (change : Diagram → Diagram) :
    Performs number (write change) fun diagram => .ok (change diagram) :=
  fun _ => rfl

theorem performs_refuse (fault : Fault) :
    Performs number (refuse number fault) fun _ => .error fault :=
  fun _ => rfl

/-- A check that does not look at the draft may go first. -/
theorem performs_check {result : Except Fault α} {next : α → Builder Unit}
    {change : α → Diagram → Except Fault Diagram}
    (continues : ∀ value, Performs number (next value) (change value)) :
    Performs number (check number result >>= next) fun diagram =>
      result >>= fun value => change value diagram := by
  intro draft
  cases result with
  | error fault => rfl
  | ok value => exact continues value draft

theorem performs_find {name : String} {next : Lifeline → Builder Unit}
    {change : Lifeline → Diagram → Except Fault Diagram}
    (continues : ∀ lifeline, Performs number (next lifeline) (change lifeline)) :
    Performs number (find number name >>= next) fun diagram =>
      diagram.declared name >>= fun lifeline => change lifeline diagram := by
  intro draft
  exact performs_check continues draft

theorem performs_configure (key value : String) :
    Performs number (configure number key value) (·.configure key value) := by
  intro draft
  simp only [configure, Diagram.configure, Config.apply, Config.directive]
  cases Config.Key.ofText? key.toList with
  | none => rfl
  | some meant =>
      by_cases kept : value = "default"
      · simp only [kept, ↓reduceIte]
        rfl
      · simp only [kept, ↓reduceIte]
        cases meant.read value.toList <;> rfl

theorem performs_declare (name : String) :
    Performs number (declare name) fun diagram => .ok (diagram.declare name) := by
  intro draft
  change answer (if draft.diagram.lifelines.contains name then pure () else write _) draft =
    (.ok (), { draft with diagram := draft.diagram.declare name })
  by_cases known : draft.diagram.lifelines.contains name = true
  · have kept : draft.diagram.declare name = draft.diagram := if_pos known
    rw [if_pos known, kept]
    rfl
  · have declared : draft.diagram.declare name = { draft.diagram with
        lifelines := draft.diagram.lifelines.insert name (.declared name) } := if_neg known
    rw [if_neg known, declared]
    rfl

theorem performs_restyle (name token : String) :
    Performs number (restyle number name token) (·.setStyle name token) := by
  refine performs_find fun lifeline => ?_
  cases LifelineStyle.ofName? token.toList with
  | none => exact performs_refuse (.invalidStyle token)
  | some style => exact performs_write _

theorem performs_relabel (name label token : String) :
    Performs number (relabel number name label token) (·.setState name label token) := by
  refine performs_check fun index => performs_check fun _ => performs_find fun _ => ?_
  exact performs_write _

theorem performs_observe (token name : String) (field : StateField) :
    Performs number (observe number token name field) (·.observe token name field) := by
  refine performs_check fun time => performs_check fun _ => performs_find fun lifeline => ?_
  refine performs_check fun index => ?_
  exact performs_write _

theorem performs_addSpan (name originToken destToken label : String) :
    Performs number (addSpan number name originToken destToken label)
      (·.addSpan name originToken destToken label) := by
  refine performs_check fun originTick => performs_check fun destTick => ?_
  exact performs_write _

theorem performs_addArrow (fields : ArrowFields) :
    Performs number (addArrow number fields) (·.addArrow fields) := by
  refine performs_check fun arrow => ?_
  exact performs_write _

theorem performs_carryOut (statement : Statement) :
    Performs number (carryOut number statement) (·.apply statement) := by
  cases statement with
  | config key value => exact performs_configure key value
  | title text => exact performs_write fun diagram => { diagram with title := fieldMarkup text }
  | lifeline name => exact performs_declare (fieldMarkup name)
  | style name token => exact performs_restyle (fieldMarkup name) token
  | state name label token => exact performs_relabel (fieldMarkup name) (fieldMarkup label) token
  | span name originToken destToken label =>
      exact performs_addSpan (fieldMarkup name) originToken destToken (fieldMarkup label)
  | arrow fields => exact performs_addArrow fields
  | tick token name field => exact performs_observe token (fieldMarkup name) field

/-- What comes after a computation works on the draft that it leaves, unless it came to a fault. -/
theorem answer_bind {β : Type} (first : Builder β) (next : β → Builder α) (draft : Draft) :
    answer (first >>= next) draft =
      match answer first draft with
      | (.ok value, between) => answer (next value) between
      | (.error fault, after) => (.error fault, after) := by
  change (ExceptT.bindCont next (answer first draft).1) (answer first draft).2 = _
  cases answer first draft with
  | mk given between => cases given <;> rfl

/-- Taking in a line in place is taking it in by values; at a fault the draft stays. -/
theorem answer_takeIn (mode : Mode) (draft : Draft) (line : Source.Line) :
    answer (takeIn mode line) draft =
      match draft.step mode line with
      | .ok (next, kind) => (.ok kind, next)
      | .error fault => (.error fault, draft) := by
  unfold takeIn Draft.step
  cases Statement.read? line.text with
  | none => cases mode <;> rfl
  | some statement =>
      simp only [answer_bind, performs_carryOut statement draft]
      cases draft.diagram.apply statement <;> rfl

/-- The ways in which taking in a line can end: at a fault, with a statement carried out, or with a
warning. -/
inductive Outcome (draft : Draft) (line : Source.Line) :
    Except LineFault (Option StatementKind) × Draft → Prop where
  | refused (fault : Fault) : Outcome draft line (.error ⟨line.number, fault⟩, draft)
  | carriedOut (statement : Statement) (diagram : Diagram)
      (read : Statement.read? line.text = some statement)
      (effect : draft.diagram.Effect statement diagram) :
      Outcome draft line (.ok (some statement.kind), { draft with diagram })
  | passedOver (read : Statement.read? line.text = none) :
      Outcome draft line
        (.ok none, { draft with warnings := draft.warnings ++ [⟨line.number, line.text⟩] })

theorem outcome_takeIn (mode : Mode) (draft : Draft) (line : Source.Line) :
    Outcome draft line (answer (takeIn mode line) draft) := by
  rw [answer_takeIn]
  unfold Draft.step
  cases read : Statement.read? line.text with
  | none =>
      cases mode with
      | strict => exact .refused (.unrecognizedStatement line.text)
      | lenient => exact .passedOver read
  | some statement =>
      cases applied : draft.diagram.apply statement with
      | error fault =>
          simp only [applied]
          exact .refused fault
      | ok diagram =>
          simp only [applied]
          exact .carriedOut statement diagram read (Diagram.effect_of_apply applied)

/-- Lines that are all taken in by values lead to the same draft in place. -/
theorem feed_of_steps {mode : Mode} {draft final : Draft} {lines : List Source.Line}
    (taken : Draft.steps mode draft lines = .ok final) : feed mode draft lines = final := by
  induction lines generalizing draft with
  | nil =>
      cases taken
      rfl
  | cons line rest inductionHypothesis =>
      unfold Draft.steps at taken
      cases first : draft.step mode line with
      | error fault => simp [first] at taken
      | ok pair =>
          obtain ⟨next, kind⟩ := pair
          simp only [first] at taken
          have reached : (answer (takeIn mode line) draft).2 = next := by
            rw [answer_takeIn, first]
          rw [feed, List.foldl_cons, reached]
          exact inductionHypothesis taken

end Chronogram.Builder
