import Chronogram.Diagram.Draft

/-!
Building a diagram in place.

`Draft.step` gives the next draft or a fault. A builder holds one draft and writes to it part by
part, and what it has written when a line turns out to be at fault stays written. So each kind of
statement has to look at everything that can be wrong before its first write, and after a fault the
builder can go on with the next line.
-/

namespace Chronogram

open Source

/-- A computation that works on the draft of a builder and may come to a fault; what it has written
before stays. -/
abbrev Builder (α : Type) : Type :=
  ExceptT LineFault (StateM Draft) α

namespace Builder

variable {α : Type}

/-- The answer of a computation and the draft that it leaves behind. -/
def answer (computation : Builder α) (draft : Draft) : Except LineFault α × Draft :=
  (ExceptT.run computation).run draft

def refuse (number : Nat) (fault : Fault) : Builder α :=
  throw ⟨number, fault⟩

def check (number : Nat) : Except Fault α → Builder α
  | .ok value => pure value
  | .error fault => refuse number fault

def write (change : Diagram → Diagram) : Builder Unit :=
  modify fun draft => { draft with diagram := change draft.diagram }

def find (number : Nat) (name : String) : Builder Lifeline := do
  let draft ← get
  check number (draft.diagram.declared name)

def configure (number : Nat) (key value : String) : Builder Unit :=
  match Config.Key.ofText? key.toList with
  | none => refuse number (.unknownConfigKey key)
  | some meant =>
      if value = "default" then pure ()
      else match meant.read value.toList with
        | .error expectation => refuse number (.invalidConfigValue key value expectation)
        | .ok setting => write fun diagram => { diagram with config := diagram.config.set setting }

/-- Declare a lifeline, unless its name is declared already. -/
def declare (name : String) : Builder Unit := do
  let draft ← get
  if draft.diagram.lifelines.contains name then pure ()
  else write fun diagram =>
    { diagram with lifelines := diagram.lifelines.insert name (.declared name) }

/-- Set the style of a lifeline. The name is looked up before the style is read. -/
def restyle (number : Nat) (name token : String) : Builder Unit := do
  let _ ← find number name
  match LifelineStyle.ofName? token.toList with
  | none => refuse number (.invalidStyle token)
  | some style => write (·.modifyLifeline name fun lifeline => { lifeline with style })

def relabel (number : Nat) (name label indexToken : String) : Builder Unit := do
  let index ← check number (numberOf indexToken)
  check number (checkLimit .stateIndex index)
  let _ ← find number name
  write (·.modifyLifeline name fun lifeline =>
    { lifeline with states := lifeline.states.insert index label })

def observe (number : Nat) (timeToken name : String) (state : StateField) : Builder Unit := do
  let time ← check number (numberOf timeToken)
  check number (checkLimit .tickTime time)
  let lifeline ← find number name
  let index ← check number (Diagram.stateOf lifeline name state)
  write fun diagram => { diagram with ticks := diagram.ticks ++ [⟨time, name, index⟩] }

def addSpan (number : Nat) (name originToken destToken label : String) : Builder Unit := do
  let originTick ← check number (numberOf originToken)
  let destTick ← check number (numberOf destToken)
  write fun diagram =>
    { diagram with spans := diagram.spans ++ [⟨name, originTick, destTick, label⟩] }

def addArrow (number : Nat) (fields : ArrowFields) : Builder Unit := do
  let arrow ← check number (Diagram.arrowOf fields)
  write fun diagram => { diagram with arrows := diagram.arrows ++ [arrow] }

def carryOut (number : Nat) : Statement → Builder Unit
  | .config key value => configure number key value
  | .title text => write fun diagram => { diagram with title := fieldMarkup text }
  | .lifeline name => declare (fieldMarkup name)
  | .style name token => restyle number (fieldMarkup name) token
  | .state name label index => relabel number (fieldMarkup name) (fieldMarkup label) index
  | .span name originTick destTick label =>
      addSpan number (fieldMarkup name) originTick destTick (fieldMarkup label)
  | .arrow fields => addArrow number fields
  | .tick time name state => observe number time (fieldMarkup name) state

/-- Take in one line; the answer tells its kind, if it is a statement. -/
def takeIn (mode : Mode) (line : Line) : Builder (Option StatementKind) :=
  match Statement.read? line.text with
  | some statement => do
      carryOut line.number statement
      pure (some statement.kind)
  | none =>
      match mode with
      | .strict => refuse line.number (.unrecognizedStatement line.text)
      | .lenient => do
          modify fun draft =>
            { draft with warnings := draft.warnings ++ [⟨line.number, line.text⟩] }
          pure none

/-- The draft after lines that were taken in one after the other, whichever of them are at fault. -/
def feed (mode : Mode) (draft : Draft) (lines : List Line) : Draft :=
  lines.foldl (fun draft line => (answer (takeIn mode line) draft).2) draft

end Builder

end Chronogram
