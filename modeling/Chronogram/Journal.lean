import Chronogram.Diagram.Draft
import Chronogram.Layout.Page
import Chronogram.Number.Decimal
import Chronogram.Source.Script

/-!
The journal: what the stages have to tell.

Warnings tell of lines that were accepted but are likely mistakes; debug entries tell what a stage
produced. An entry is a message with named fields, written on one line.
-/

namespace Chronogram

open Source

/-- How much an entry matters. -/
inductive Level where
  | warn
  | debug
  deriving Repr, DecidableEq

def Level.name : Level → String
  | .warn => "WARN"
  | .debug => "DEBUG"

structure Entry where
  level : Level
  message : String
  fields : List (String × String)
  deriving Repr, DecidableEq

namespace Entry

def line (entry : Entry) : String :=
  entry.level.name ++ " " ++ entry.message ++
    String.join (entry.fields.map fun (name, value) => " " ++ name ++ "=" ++ value)

def count (name : String) (n : Nat) : String × String :=
  (name, toString n)

def length (name : String) (x : Float) : String × String :=
  (name, String.ofList (Number.Style.log.write x))

def redefined (definition : Definition) (number : Nat) : Entry :=
  ⟨.warn, "macro redefined; the later definition wins",
    [count "line" number, ("name", definition.name)]⟩

def ofScript (script : Script) : Entry :=
  ⟨.debug, "preprocessed diagram source",
    [count "lines" script.lines.length, count "macros" script.macros.size]⟩

/-- A line was taken in that is likely a mistake. -/
def ofNotice : Notice → Entry
  | .declaredTwice number name =>
      ⟨.warn, "lifeline declared twice; keeping the first declaration",
        [count "line" number, ("name", name)]⟩
  | .passedOver number text =>
      ⟨.warn, "ignoring unrecognized statement", [count "line" number, ("text", text)]⟩

def ofDraft (draft : Draft) : Entry :=
  ⟨.debug, "parsed diagram",
    [count "lifelines" draft.diagram.lifelines.size, count "ticks" draft.diagram.ticks.length,
      count "arrows" draft.diagram.arrows.length, count "spans" draft.diagram.spans.length,
      count "warnings" draft.warnings.length]⟩

def ofTimeline (timeline : Timeline) : Entry :=
  ⟨.debug, "interpolated ticks",
    [count "ticks" timeline.tickCount, count "lifelines" timeline.lifelines.size]⟩

/-- A time line was laid out. -/
def ofPage (page : Page Float) : Entry :=
  ⟨.debug, "laid out diagram",
    [length "width" page.width, length "height" page.height,
      count "lifelines" page.lifelines.length, count "arrows" page.arrows.length,
      count "spans" page.spans.length]⟩

def ofDocument (shapes bytes : Nat) : Entry :=
  ⟨.debug, "rendered svg", [count "draw_calls" shapes, count "bytes" bytes]⟩

def ofText (text : String) : List Entry :=
  (redefinitions (definitions (numberedLines text)) []).map
      (fun (definition, number) => redefined definition number) ++
    [ofScript (Script.ofText text)]

end Entry

end Chronogram
