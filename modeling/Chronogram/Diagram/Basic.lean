import Chronogram.Config
import Chronogram.Diagram.Catalog
import Chronogram.Table
import Chronogram.Text.Ascii

/-!
Diagrams as their text describes them.

A diagram has lifelines, each with a style and a catalog of states; observations (ticks) that put a
lifeline into a state at a time; spans between two times; and arrows between points of two
lifelines. All texts in a diagram are markup.
-/

namespace Chronogram

open Text

inductive LifelineStyle where
  /-- A staircase over one row per state. -/
  | normal
  /-- Two rails that meet where the state changes. -/
  | simplified
  /-- A staircase over coloured slices of time. -/
  | slice
  deriving Repr, DecidableEq

def LifelineStyle.name : LifelineStyle → String
  | .normal => "normal"
  | .simplified => "simplified"
  | .slice => "slice"

/-- Read the name of a style without regard to ASCII case. -/
def LifelineStyle.ofName? (text : List Char) : Option LifelineStyle :=
  let name := asciiLower text
  if name = "normal".toList then some .normal
  else if name = "simplified".toList then some .simplified
  else if name = "slice".toList then some .slice
  else none

/-- A participant whose state is followed over time. -/
structure Lifeline where
  name : String
  style : LifelineStyle
  states : Catalog
  deriving Repr, DecidableEq

def Lifeline.declared (name : String) : Lifeline :=
  ⟨name, .normal, Catalog.empty⟩

/-- The observation that a lifeline is in a state at a time. -/
structure Tick where
  time : Nat
  lifeline : String
  state : Nat
  deriving Repr, DecidableEq

/-- A labelled stretch of time of a lifeline. -/
structure Span where
  lifeline : String
  originTick : Nat
  destTick : Nat
  label : String
  deriving Repr, DecidableEq

inductive LabelSide where
  | left
  | right
  deriving Repr, DecidableEq

inductive ArrowStyle where
  | solid
  | dashed
  deriving Repr, DecidableEq

def ArrowStyle.name : ArrowStyle → String
  | .solid => "solid"
  | .dashed => "dashed"

/-- An end of an arrow: one of the attachment points of a lifeline at a tick. -/
structure ArrowEnd where
  lifeline : String
  tick : Nat
  slot : Nat
  deriving Repr, DecidableEq

/-- An arrow between two lifelines. The position of the label is a percentage of the way from the
origin to the destination. -/
structure Arrow where
  origin : ArrowEnd
  dest : ArrowEnd
  label : Option String
  labelPosition : Int
  labelSide : LabelSide
  style : ArrowStyle
  deriving Repr, DecidableEq

/-- A diagram with sparse observations. -/
structure Diagram where
  title : String
  config : Config
  lifelines : Table Lifeline
  ticks : List Tick
  spans : List Span
  arrows : List Arrow

def Diagram.defaultTitle : String := "Untitled Diagram"

def Diagram.blank (config : Config) : Diagram :=
  ⟨defaultTitle, config, Table.empty, [], [], []⟩

end Chronogram
