import Chronogram.Diagram.Fault
import Chronogram.Markup.Escape
import Chronogram.Statement.Reader

/-!
Building a diagram line by line.

Carrying out a statement gives a new diagram or a fault, so a faulty line leaves no trace. A draft
is the diagram so far with the warnings so far. Strict and lenient reading differ in one place only:
what becomes of a line that is no statement.
-/

namespace Chronogram

open Source Text

def fieldMarkup (raw : String) : String :=
  String.ofList (Markup.escape (Quoted.unescape raw.toList))

def plainMarkup (text : String) : String :=
  String.ofList (Markup.escape text.toList)

/-- The number that a row of digits stands for. -/
def numberOf (token : String) : Except Fault Nat :=
  match Numeral.unsigned? Numeral.wordBound token.toList with
  | some n => .ok n
  | none => .error (.invalidNumber token)

/-- The number that an optional row of digits stands for; nothing stands for zero. -/
def numberOrZero : Option String → Except Fault Nat
  | some token => numberOf token
  | none => .ok 0

/-- The signed number of an optional position; nothing stands for zero. -/
def positionOf : Option String → Except Fault Int
  | some token =>
      match Numeral.signed? token.toList with
      | some n => .ok n
      | none => .error (.invalidNumber token)
  | none => .ok 0

def checkLimit (limit : Limit) (value : Nat) : Except Fault Unit :=
  if limit.greatest < value then .error (.limitExceeded limit value) else .ok ()

namespace Diagram

def declared (diagram : Diagram) (name : String) : Except Fault Lifeline :=
  match diagram.lifelines.get? name with
  | some lifeline => .ok lifeline
  | none => .error (.unknownLifeline name)

def modifyLifeline (diagram : Diagram) (name : String) (f : Lifeline → Lifeline) : Diagram :=
  { diagram with lifelines := diagram.lifelines.modify name f }

def configure (diagram : Diagram) (key value : String) : Except Fault Diagram :=
  match diagram.config.apply key value with
  | .ok config => .ok { diagram with config }
  | .error .unknownKey => .error (.unknownConfigKey key)
  | .error (.invalidValue expectation) => .error (.invalidConfigValue key value expectation)

/-- Declare a lifeline; a name that is declared already keeps its declaration. -/
def declare (diagram : Diagram) (name : String) : Diagram :=
  if diagram.lifelines.contains name then diagram
  else { diagram with lifelines := diagram.lifelines.insert name (.declared name) }

def setStyle (diagram : Diagram) (name token : String) : Except Fault Diagram := do
  let _ ← diagram.declared name
  match LifelineStyle.ofName? token.toList with
  | some style => .ok (diagram.modifyLifeline name fun lifeline => { lifeline with style })
  | none => .error (.invalidStyle token)

def setState (diagram : Diagram) (name label indexToken : String) : Except Fault Diagram := do
  let index ← numberOf indexToken
  checkLimit .stateIndex index
  let _ ← diagram.declared name
  .ok (diagram.modifyLifeline name fun lifeline =>
    { lifeline with states := lifeline.states.insert index label })

/-- The index of the state with a label. -/
def labelledState (lifeline : Lifeline) (name label : String) : Except Fault Nat :=
  match lifeline.states.position? label with
  | some index => .ok index
  | none => .error (.unknownState name label)

/-- The index that the state of a tick statement means. A bare row of ASCII digits is the index
itself, anything else is a label. -/
def stateOf (lifeline : Lifeline) (name : String) : StateField → Except Fault Nat
  | .quoted raw => labelledState lifeline name (fieldMarkup raw)
  | .bare token =>
      if Numeral.isNumeral token.toList then
        match Numeral.unsigned? Numeral.wordBound token.toList with
        | some index => .ok index
        | none => .error (.invalidStateIndex token)
      else labelledState lifeline name (plainMarkup token)

def observe (diagram : Diagram) (timeToken name : String) (state : StateField) :
    Except Fault Diagram := do
  let time ← numberOf timeToken
  checkLimit .tickTime time
  let lifeline ← diagram.declared name
  let index ← stateOf lifeline name state
  .ok { diagram with ticks := diagram.ticks ++ [⟨time, name, index⟩] }

def addSpan (diagram : Diagram) (name originToken destToken label : String) :
    Except Fault Diagram := do
  let originTick ← numberOf originToken
  let destTick ← numberOf destToken
  .ok { diagram with spans := diagram.spans ++ [⟨name, originTick, destTick, label⟩] }

def endOf (fields : EndFields) : Except Fault ArrowEnd := do
  let tick ← numberOf fields.tick
  let slot ← numberOrZero fields.slot
  .ok ⟨fieldMarkup fields.lifeline, tick, slot⟩

/-- The arrow that its fields describe; a label stands on the right unless it says otherwise. -/
def arrowOf (fields : ArrowFields) : Except Fault Arrow := do
  let labelPosition ← positionOf (fields.label.bind LabelFields.position)
  let origin ← endOf fields.origin
  let dest ← endOf fields.dest
  .ok {
    origin, dest, labelPosition
    label := fields.label.map fun label => fieldMarkup label.text
    labelSide := fields.side.getD .right
    style := fields.style }

def addArrow (diagram : Diagram) (fields : ArrowFields) : Except Fault Diagram := do
  let arrow ← arrowOf fields
  .ok { diagram with arrows := diagram.arrows ++ [arrow] }

def apply (diagram : Diagram) : Statement → Except Fault Diagram
  | .config key value => diagram.configure key value
  | .title text => .ok { diagram with title := fieldMarkup text }
  | .lifeline name => .ok (diagram.declare (fieldMarkup name))
  | .style name token => diagram.setStyle (fieldMarkup name) token
  | .state name label index => diagram.setState (fieldMarkup name) (fieldMarkup label) index
  | .span name originTick destTick label =>
      diagram.addSpan (fieldMarkup name) originTick destTick (fieldMarkup label)
  | .arrow fields => diagram.addArrow fields
  | .tick time name state => diagram.observe time (fieldMarkup name) state

end Diagram

/-- What becomes of a line that is no statement. -/
inductive Mode where
  /-- It is an error. -/
  | strict
  /-- It is passed over with a warning. -/
  | lenient
  deriving Repr, DecidableEq

/-- A diagram under construction and the lines that were passed over. -/
structure Draft where
  diagram : Diagram
  warnings : List Warning

namespace Draft

def blank (config : Config) : Draft :=
  ⟨Diagram.blank config, []⟩

/-- Take in one line; the answer tells its kind, if it is a statement. -/
def step (mode : Mode) (draft : Draft) (line : Line) :
    Except LineFault (Draft × Option StatementKind) :=
  match Statement.read? line.text with
  | some statement =>
      match draft.diagram.apply statement with
      | .ok diagram => .ok ({ draft with diagram }, some statement.kind)
      | .error fault => .error ⟨line.number, fault⟩
  | none =>
      match mode with
      | .strict => .error ⟨line.number, .unrecognizedStatement line.text⟩
      | .lenient =>
          .ok ({ draft with warnings := draft.warnings ++ [⟨line.number, line.text⟩] }, none)

/-- Take in lines one after the other, up to the first error. -/
def steps (mode : Mode) : Draft → List Line → Except LineFault Draft
  | draft, [] => .ok draft
  | draft, line :: rest =>
      match draft.step mode line with
      | .ok (next, _) => steps mode next rest
      | .error error => .error error

end Draft

/-- Things worth telling about a line that is not at fault. -/
inductive Notice where
  | declaredTwice (line : Nat) (name : String)
  | passedOver (line : Nat) (text : String)
  deriving Repr, DecidableEq

namespace Draft

/-- What is worth telling when a draft takes in a line. -/
def notice? (mode : Mode) (draft : Draft) (line : Line) : Option Notice :=
  match Statement.read? line.text with
  | some (.lifeline name) =>
      if draft.diagram.lifelines.contains (fieldMarkup name) then
        some (.declaredTwice line.number (fieldMarkup name))
      else none
  | some _ => none
  | none =>
      match mode with
      | .strict => none
      | .lenient => some (.passedOver line.number line.text)

/-- What is worth telling while a draft takes in lines, up to the first error. -/
def notices (mode : Mode) : Draft → List Line → List Notice
  | _, [] => []
  | draft, line :: rest =>
      match draft.step mode line with
      | .ok (next, _) => (draft.notice? mode line).toList ++ notices mode next rest
      | .error _ => []

end Draft

end Chronogram
