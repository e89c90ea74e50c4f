import Chronogram.Diagram.Basic

/-!
Statements as they are written.

A statement holds the fields of one line exactly as they stand there: quoted fields without their
quotes but with their backslashes, numbers as rows of digits. Which numbers are in range and which
names are declared is decided when the statement is carried out.
-/

namespace Chronogram

inductive StatementKind where
  | config
  | title
  | lifeline
  | style
  | state
  | span
  | arrow
  | tick
  deriving Repr, DecidableEq

def StatementKind.name : StatementKind → String
  | .config => "config"
  | .title => "title"
  | .lifeline => "lifeline"
  | .style => "style"
  | .state => "state"
  | .span => "span"
  | .arrow => "arrow"
  | .tick => "tick"

inductive StateField where
  | quoted (raw : String)
  | bare (token : String)
  deriving Repr, DecidableEq

structure EndFields where
  tick : String
  lifeline : String
  slot : Option String
  deriving Repr, DecidableEq

structure LabelFields where
  text : String
  position : Option String
  deriving Repr, DecidableEq

structure ArrowFields where
  origin : EndFields
  style : ArrowStyle
  dest : EndFields
  label : Option LabelFields
  side : Option LabelSide
  deriving Repr, DecidableEq

inductive Statement where
  | config (key value : String)
  | title (text : String)
  | lifeline (name : String)
  | style (name style : String)
  | state (name label index : String)
  | span (name originTick destTick label : String)
  | arrow (fields : ArrowFields)
  | tick (time name : String) (state : StateField)
  deriving Repr, DecidableEq

def Statement.kind : Statement → StatementKind
  | .config .. => .config
  | .title .. => .title
  | .lifeline .. => .lifeline
  | .style .. => .style
  | .state .. => .state
  | .span .. => .span
  | .arrow .. => .arrow
  | .tick .. => .tick

end Chronogram
