import Chronogram.Statement.Basic
import Chronogram.Text.Numeral
import Chronogram.Text.Quoted

/-!
Writing statements.

`Statement.write` gives the line of a statement, with a single blank where blanks are needed and
none where they are optional. `Diagram.statements` describes a diagram whose texts are raw, one
statement for each of its parts; `Diagram.source` is their text. Settings are not part of that text:
they belong to the place where a diagram is read.
-/

namespace Chronogram

open Text

namespace Printer

def quotedText (raw : String) : List Char :=
  '"' :: (raw.toList ++ ['"'])

def spaced : List (List Char) → List Char
  | [] => []
  | [piece] => piece
  | piece :: next :: rest => piece ++ ' ' :: spaced (next :: rest)

def tickText (digits : String) : List Char :=
  'T' :: digits.toList

def behindColon : Option String → List Char
  | none => []
  | some digits => ':' :: digits.toList

def endText (fields : EndFields) : List Char :=
  tickText fields.tick ++ ':' :: quotedText fields.lifeline ++ behindColon fields.slot

def headText : ArrowStyle → List Char
  | .solid => ['-', '>']
  | .dashed => ['=', '>']

def labelText : Option LabelFields → List Char
  | none => []
  | some fields => ' ' :: quotedText fields.text ++ behindColon fields.position

def sideText : Option LabelSide → List Char
  | none => []
  | some .left => [':', 'L']
  | some .right => [':', 'R']

def stateText : StateField → List Char
  | .quoted raw => quotedText raw
  | .bare token => token.toList

end Printer

open Printer in
def Statement.write : Statement → List Char
  | .config key value => spaced ["config".toList, key.toList, value.toList]
  | .title text => spaced ["title".toList, quotedText text]
  | .lifeline name => spaced ["lifeline".toList, quotedText name]
  | .style name token => spaced ["style".toList, quotedText name, token.toList]
  | .state name label index =>
      spaced ["state".toList, quotedText name, quotedText label, index.toList]
  | .span name originTick destTick label =>
      spaced ["span".toList, quotedText name, tickText originTick ++ ':' :: tickText destTick,
        quotedText label]
  | .arrow fields =>
      spaced [endText fields.origin, headText fields.style, endText fields.dest] ++
        labelText fields.label ++ sideText fields.side
  | .tick time name field => spaced [tickText time, quotedText name, stateText field]

def rawField (text : String) : String :=
  String.ofList (Quoted.escape text.toList)

def numberField (n : Nat) : String :=
  String.ofList (Numeral.ofNat n)

/-- The statements that declare a lifeline and set its style and the labels of its states. -/
def Lifeline.statements (lifeline : Lifeline) : List Statement :=
  let name := rawField lifeline.name
  .lifeline name :: .style name lifeline.style.name ::
    lifeline.states.labels.map fun (index, label) =>
      .state name (rawField label) (numberField index)

def Tick.statement (tick : Tick) : Statement :=
  .tick (numberField tick.time) (rawField tick.lifeline) (.bare (numberField tick.state))

def Span.statement (span : Span) : Statement :=
  .span (rawField span.lifeline) (numberField span.originTick) (numberField span.destTick)
    (rawField span.label)

def ArrowEnd.fields (arrowEnd : ArrowEnd) : EndFields :=
  ⟨numberField arrowEnd.tick, rawField arrowEnd.lifeline, some (numberField arrowEnd.slot)⟩

def Arrow.statement (arrow : Arrow) : Statement :=
  .arrow {
    origin := arrow.origin.fields
    style := arrow.style
    dest := arrow.dest.fields
    label := arrow.label.map fun label =>
      ⟨rawField label, some (String.ofList (Numeral.ofInt arrow.labelPosition))⟩
    side := some arrow.labelSide }

/-- The statements that describe a diagram, its settings aside. -/
def Diagram.statements (diagram : Diagram) : List Statement :=
  .title (rawField diagram.title) ::
    (diagram.lifelines.values.flatMap Lifeline.statements ++
      diagram.ticks.map Tick.statement ++
      diagram.spans.map Span.statement ++
      diagram.arrows.map Arrow.statement)

def Diagram.source (diagram : Diagram) : String :=
  String.ofList (diagram.statements.flatMap fun statement => statement.write ++ ['\n'])

end Chronogram
