import Chronogram.Diagram.Draft
import Chronogram.Proofs.FirstFault
import Chronogram.Proofs.Table

/-!
What a line decides and what it edits.

Taking in a line falls into two halves. First it is decided, from the draft as it is, whether the line
is at fault and otherwise how one part of the draft is edited; then the edit is performed, and it
looks at nothing but its part. What a decision depends on is narrower than a draft: most lines look
at nothing, styles and states look for a name, and observations look for the states of a name.
-/

namespace Chronogram

open Source

def Lifeline.restyle (style : LifelineStyle) (lifeline : Lifeline) : Lifeline :=
  { lifeline with style }

def Lifeline.relabel (index : Nat) (label : String) (lifeline : Lifeline) : Lifeline :=
  { lifeline with states := lifeline.states.insert index label }

/-- An edit of one part of a draft. -/
inductive Edit where
  | title (change : String → String)
  | config (change : Config → Config)
  | lifelines (change : Table Lifeline → Table Lifeline)
  | ticks (change : List Tick → List Tick)
  | spans (change : List Span → List Span)
  | arrows (change : List Arrow → List Arrow)
  | warnings (change : List Warning → List Warning)

namespace Edit

def onDiagram (diagram : Diagram) : Edit → Diagram
  | .title change => { diagram with title := change diagram.title }
  | .config change => { diagram with config := change diagram.config }
  | .lifelines change => { diagram with lifelines := change diagram.lifelines }
  | .ticks change => { diagram with ticks := change diagram.ticks }
  | .spans change => { diagram with spans := change diagram.spans }
  | .arrows change => { diagram with arrows := change diagram.arrows }
  | .warnings _ => diagram

def onWarnings (warnings : List Warning) : Edit → List Warning
  | .warnings change => change warnings
  | _ => warnings

def perform (edit : Edit) (draft : Draft) : Draft :=
  ⟨edit.onDiagram draft.diagram, edit.onWarnings draft.warnings⟩

/-- The edits that lines of a kind make; a line that is no statement has no kind. -/
inductive Of : Option StatementKind → Edit → Prop where
  | config (change : Config → Config) : Of (some .config) (.config change)
  | title (change : String → String) : Of (some .title) (.title change)
  | declare (change : Table Lifeline → Table Lifeline) : Of (some .lifeline) (.lifelines change)
  | restyle (name : String) (style : LifelineStyle) :
      Of (some .style) (.lifelines (·.modify name (·.restyle style)))
  | relabel (name label : String) (index : Nat) :
      Of (some .state) (.lifelines (·.modify name (·.relabel index label)))
  | observe (change : List Tick → List Tick) : Of (some .tick) (.ticks change)
  | addSpan (change : List Span → List Span) : Of (some .span) (.spans change)
  | addArrow (change : List Arrow → List Arrow) : Of (some .arrow) (.arrows change)
  | passOver (change : List Warning → List Warning) : Of none (.warnings change)

theorem Of.onWarnings {kind : StatementKind} {edit : Edit} (of : Of (some kind) edit)
    (warnings : List Warning) : edit.onWarnings warnings = warnings := by
  cases of <;> rfl

end Edit

namespace Diagram

/-- The fault of a statement, or what it edits. -/
def decision (diagram : Diagram) : Statement → Except Fault Edit
  | .config key value =>
      match Config.directive key value with
      | .ok (some setting) => .ok (.config (·.set setting))
      | .ok none => .ok (.config id)
      | .error .unknownKey => .error (.unknownConfigKey key)
      | .error (.invalidValue expectation) => .error (.invalidConfigValue key value expectation)
  | .title text => .ok (.title fun _ => fieldMarkup text)
  | .lifeline name => .ok (.lifelines fun lifelines =>
      if lifelines.contains (fieldMarkup name) then lifelines
      else lifelines.insert (fieldMarkup name) (.declared (fieldMarkup name)))
  | .style name token => do
      let _ ← diagram.declared (fieldMarkup name)
      match LifelineStyle.ofName? token.toList with
      | some style => .ok (.lifelines (·.modify (fieldMarkup name) (·.restyle style)))
      | none => .error (.invalidStyle token)
  | .state name label token => do
      let index ← numberOf token
      checkLimit .stateIndex index
      let _ ← diagram.declared (fieldMarkup name)
      .ok (.lifelines (·.modify (fieldMarkup name) (·.relabel index (fieldMarkup label))))
  | .tick token name field => do
      let time ← numberOf token
      checkLimit .tickTime time
      let lifeline ← diagram.declared (fieldMarkup name)
      let index ← stateOf lifeline (fieldMarkup name) field
      .ok (.ticks (· ++ [⟨time, fieldMarkup name, index⟩]))
  | .span name originToken destToken label => do
      let originTick ← numberOf originToken
      let destTick ← numberOf destToken
      .ok (.spans (· ++ [⟨fieldMarkup name, originTick, destTick, fieldMarkup label⟩]))
  | .arrow fields => do
      let arrow ← arrowOf fields
      .ok (.arrows (· ++ [arrow]))

theorem apply_eq_decision (diagram : Diagram) (statement : Statement) :
    diagram.apply statement = (·.onDiagram diagram) <$> diagram.decision statement := by
  cases statement with
  | config key value =>
      simp only [apply, configure, Config.apply, decision]
      cases Config.directive key value with
      | error fault => cases fault <;> rfl
      | ok setting => cases setting <;> rfl
  | title text => rfl
  | lifeline name =>
      simp only [apply, declare, decision, Except.map_ok, Edit.onDiagram]
      split <;> rfl
  | style name token =>
      simp only [apply, setStyle, decision, map_bind]
      cases LifelineStyle.ofName? token.toList <;> rfl
  | state name label token => simp only [apply, setState, decision, map_bind]; rfl
  | tick token name field => simp only [apply, observe, decision, map_bind]; rfl
  | span name originToken destToken label => simp only [apply, addSpan, decision, map_bind]; rfl
  | arrow fields => simp only [apply, addArrow, decision, map_bind]; rfl

theorem of_decision {diagram : Diagram} {statement : Statement} {edit : Edit}
    (decided : diagram.decision statement = .ok edit) : Edit.Of (some statement.kind) edit := by
  cases statement with
  | config key value =>
      simp only [decision] at decided
      split at decided <;> cases decided <;> exact .config _
  | title text =>
      cases decided
      exact .title _
  | lifeline name =>
      cases decided
      exact .declare _
  | style name token =>
      obtain ⟨lifeline, -, styled⟩ := bind_eq_ok_iff.mp decided
      split at styled <;> cases styled
      exact .restyle (fieldMarkup name) _
  | state name label token =>
      obtain ⟨index, -, checking⟩ := bind_eq_ok_iff.mp decided
      obtain ⟨_, -, declaring⟩ := bind_eq_ok_iff.mp checking
      obtain ⟨lifeline, -, labelled⟩ := bind_eq_ok_iff.mp declaring
      cases labelled
      exact .relabel (fieldMarkup name) (fieldMarkup label) index
  | tick token name field =>
      obtain ⟨time, -, checking⟩ := bind_eq_ok_iff.mp decided
      obtain ⟨_, -, declaring⟩ := bind_eq_ok_iff.mp checking
      obtain ⟨lifeline, -, finding⟩ := bind_eq_ok_iff.mp declaring
      obtain ⟨index, -, observed⟩ := bind_eq_ok_iff.mp finding
      cases observed
      exact .observe _
  | span name originToken destToken label =>
      obtain ⟨originTick, -, remaining⟩ := bind_eq_ok_iff.mp decided
      obtain ⟨destTick, -, added⟩ := bind_eq_ok_iff.mp remaining
      cases added
      exact .addSpan _
  | arrow fields =>
      obtain ⟨arrow, -, added⟩ := bind_eq_ok_iff.mp decided
      cases added
      exact .addArrow _

/-- What a statement of a kind, or a line that is no statement, looks at in two tables of lifelines
is the same. -/
def LooksSame (before after : Table Lifeline) : Option StatementKind → Prop
  | some .style | some .state => before.keys = after.keys
  | some .tick => ∀ name,
      (before.get? name).map Lifeline.states = (after.get? name).map Lifeline.states
  | _ => True

theorem LooksSame.refl (table : Table Lifeline) (kind? : Option StatementKind) :
    LooksSame table table kind? := by
  unfold LooksSame
  split <;> simp

/-- A name that is only asked for is declared in both diagrams or in neither. -/
theorem declared_bind_congr {diagram other : Diagram} {α : Type} (name : String)
    (same : diagram.lifelines.keys = other.lifelines.keys) (next : Except Fault α) :
    (diagram.declared name >>= fun _ => next) = other.declared name >>= fun _ => next := by
  have known : name ∈ diagram.lifelines.keys ↔ name ∈ other.lifelines.keys := by rw [same]
  unfold declared
  cases found : diagram.lifelines.get? name with
  | none =>
      have absent := Table.get?_eq_none_iff.mpr (known.not.mp (Table.get?_eq_none_iff.mp found))
      rw [absent]
  | some lifeline =>
      obtain ⟨value, there⟩ := Table.exists_get? (known.mp (Table.mem_keys_of_get? found))
      rw [there]
      rfl

theorem stateOf_congr {lifeline other : Lifeline} (same : lifeline.states = other.states)
    (name : String) (field : StateField) : stateOf lifeline name field = stateOf other name field := by
  cases field <;> simp only [stateOf, labelledState, same]

theorem decision_congr {diagram other : Diagram} {statement : Statement}
    (same : LooksSame diagram.lifelines other.lifelines (some statement.kind)) :
    diagram.decision statement = other.decision statement := by
  cases statement with
  | config | title | lifeline | span | arrow => rfl
  | style name token => exact declared_bind_congr _ same _
  | state name label token =>
      simp only [decision]
      refine bind_congr fun index => bind_congr fun _ => ?_
      exact declared_bind_congr _ same _
  | tick token name field =>
      simp only [decision]
      refine bind_congr fun time => bind_congr fun _ => ?_
      have states := same (fieldMarkup name)
      unfold declared
      cases found : diagram.lifelines.get? (fieldMarkup name) with
      | none =>
          rw [found, Option.map_none, eq_comm, Option.map_eq_none_iff] at states
          rw [states]
      | some lifeline =>
          rw [found, Option.map_some, eq_comm, Option.map_eq_some_iff] at states
          obtain ⟨value, there, kept⟩ := states
          rw [there]
          simp only [bind, Except.bind, stateOf_congr kept]

end Diagram

def Source.Line.kind? (line : Line) : Option StatementKind :=
  (Statement.read? line.text).map Statement.kind

namespace Draft

variable {mode : Mode} {draft : Draft} {line : Line}

/-- The fault of a line, or what it edits. -/
def decision (mode : Mode) (draft : Draft) (line : Line) : Except LineFault Edit :=
  match Statement.read? line.text with
  | some statement => (draft.diagram.decision statement).mapError fun fault => ⟨line.number, fault⟩
  | none =>
      match mode with
      | .strict => .error ⟨line.number, .unrecognizedStatement line.text⟩
      | .lenient => .ok (.warnings (· ++ [⟨line.number, line.text⟩]))

theorem step_eq_decision (mode : Mode) (draft : Draft) (line : Line) :
    draft.step mode line =
      (fun edit => (edit.perform draft, line.kind?)) <$> draft.decision mode line := by
  simp only [step, decision, Line.kind?]
  cases read : Statement.read? line.text with
  | none => cases mode <;> rfl
  | some statement =>
      cases decided : draft.diagram.decision statement with
      | error fault =>
          simp only [Diagram.apply_eq_decision, decided]
          rfl
      | ok edit =>
          have same : edit.perform draft = { draft with diagram := edit.onDiagram draft.diagram } :=
            congrArg (Draft.mk _) ((Diagram.of_decision decided).onWarnings draft.warnings)
          simp only [Diagram.apply_eq_decision, decided, Except.map_ok, Except.mapError, same,
            Option.map_some]

theorem of_decision {edit : Edit} (decided : draft.decision mode line = .ok edit) :
    Edit.Of line.kind? edit := by
  simp only [decision] at decided
  cases read : Statement.read? line.text with
  | some statement =>
      rw [read] at decided
      have found := mapError_eq_ok_iff.mp decided
      simpa [Line.kind?, read] using Diagram.of_decision found
  | none =>
      cases mode with
      | strict => simp [read] at decided
      | lenient =>
          rw [read] at decided
          cases decided
          simpa [Line.kind?, read] using Edit.Of.passOver _

theorem decision_congr {other : Draft}
    (same : Diagram.LooksSame draft.diagram.lifelines other.diagram.lifelines line.kind?) :
    draft.decision mode line = other.decision mode line := by
  simp only [decision]
  cases read : Statement.read? line.text with
  | none => rfl
  | some statement =>
      rw [Line.kind?, read] at same
      simp only [Diagram.decision_congr same]

end Draft

end Chronogram
