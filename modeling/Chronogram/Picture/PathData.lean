import Chronogram.Picture.Arc
import Chronogram.Picture.Outline
import Chronogram.Picture.Transform

/-!
Outlines written as path data.

Path data is a row of commands of one letter with numbers, of which the first is a move. Small
letters count from the place that is reached. A letter is left out where the command repeats; a move
repeats as a line. The data ends at the first command that cannot be read.
-/

namespace Chronogram.Picture

open Xml

/-- The point that a smooth curve continues from. -/
inductive Lead where
  | none
  | quadratic (lead : Point Float)
  | cubic (trail : Point Float)

/-- How far an outline is drawn. -/
structure Pen where
  place : Point Float
  /-- Where the current part of the outline started. -/
  first : Point Float
  lead : Lead
  /-- Whether the outline was closed last. -/
  isClosed : Bool
  /-- The outline so far, the last part first. -/
  drawn : Outline

namespace Pen

def start : Pen := ⟨⟨0, 0⟩, ⟨0, 0⟩, .none, false, []⟩

def toward (pen : Pen) (isRelative : Bool) (x y : Float) : Point Float :=
  if isRelative then ⟨x + pen.place.x, y + pen.place.y⟩ else ⟨x, y⟩

/-- Start a new part of the outline. -/
def move (pen : Pen) (stop : Point Float) : Pen :=
  ⟨stop, stop, .none, false, .move stop.toSingle :: pen.drawn⟩

/-- Continue behind a closed part where it started. -/
def resume (pen : Pen) : Pen :=
  if pen.isClosed then pen.move pen.first else pen

def line (pen : Pen) (stop : Point Float) : Pen :=
  { pen with place := stop, lead := .none, drawn := .line stop.toSingle :: pen.drawn }

def quadratic (pen : Pen) (lead stop : Point Float) : Pen :=
  { pen with
    place := stop
    lead := .quadratic lead
    drawn := .quadratic lead.toSingle stop.toSingle :: pen.drawn }

def cubic (pen : Pen) (lead trail stop : Point Float) : Pen :=
  { pen with
    place := stop
    lead := .cubic trail
    drawn := .cubic lead.toSingle trail.toSingle stop.toSingle :: pen.drawn }

/-- Close the current part, once. -/
def close (pen : Pen) : Pen :=
  if pen.isClosed then pen
  else
    { pen with
      place := pen.first
      lead := .none
      isClosed := true
      drawn := .close :: pen.drawn }

def arc (pen : Pen) (arc : EndpointArc) : Pen :=
  match arc.toCenter? with
  | none => pen.line arc.stop
  | some centered =>
      let pen := centered.curves.foldl
        (fun pen curve => pen.cubic curve.lead curve.trail curve.stop) pen
      { pen with lead := .none }

def opposite (pen : Pen) (point : Point Float) : Point Float :=
  ⟨pen.place.x * 2 - point.x, pen.place.y * 2 - point.y⟩

/-- The point that leads a smooth cubic curve. -/
def cubicLead (pen : Pen) : Point Float :=
  match pen.lead with
  | .cubic trail => pen.opposite trail
  | _ => pen.place

def quadraticLead (pen : Pen) : Point Float :=
  match pen.lead with
  | .quadratic lead => pen.opposite lead
  | _ => pen.place

end Pen

/-- Read a flag: one digit, behind which blanks and a comma may stand. -/
def flag? (text : List Char) : Option (Bool × List Char) :=
  match skipSpace text with
  | c :: rest =>
      if c = '0' || c = '1' then some (c = '1', skipSpace ((after? "," rest).getD rest)) else none
  | [] => none

/-- Read the numbers of an arc, and draw it. -/
def arcCommand? (pen : Pen) (isRelative : Bool) (text : List Char) : Option (Pen × List Char) := do
  let (numbers, rest) ← listNumbers? 3 text
  let (isLarge, rest) ← flag? rest
  let (isClockwise, rest) ← flag? rest
  let (stops, rest) ← listNumbers? 2 rest
  match numbers, stops with
  | [radiusX, radiusY, angle], [x, y] =>
      let pen := pen.resume
      some (pen.arc
        { start := pen.place
          stop := pen.toward isRelative x y
          radiusX
          radiusY
          rotation := angle * radiansPerDegree
          isLarge
          isClockwise }, rest)
  | _, _ => none

/-- How many numbers follow a letter. -/
def numberCount (letter : Char) : Nat :=
  match letter with
  | 'm' | 'l' | 't' => 2
  | 'h' | 'v' => 1
  | 's' | 'q' => 4
  | 'c' => 6
  | _ => 0

/-- Carry out a command with its numbers, for a small letter. -/
def Pen.draw? (pen : Pen) (isRelative : Bool) (letter : Char) (numbers : List Float) : Option Pen :=
  let resumed := pen.resume
  let place := resumed.toward isRelative
  match letter, numbers with
  | 'm', [x, y] => some (pen.move (pen.toward isRelative x y))
  | 'l', [x, y] => some (resumed.line (place x y))
  | 'h', [x] => some (resumed.line ⟨(place x 0).x, resumed.place.y⟩)
  | 'v', [y] => some (resumed.line ⟨resumed.place.x, (place 0 y).y⟩)
  | 'q', [x1, y1, x, y] => some (resumed.quadratic (place x1 y1) (place x y))
  | 't', [x, y] => some (resumed.quadratic resumed.quadraticLead (place x y))
  | 'c', [x1, y1, x2, y2, x, y] => some (resumed.cubic (place x1 y1) (place x2 y2) (place x y))
  | 's', [x2, y2, x, y] => some (resumed.cubic resumed.cubicLead (place x2 y2) (place x y))
  | 'z', [] => some pen.close
  | _, _ => none

def commandLetters : List Char := "mzlhvcsqta".toList

/-- The letter of a command that is left out, for the letter before it. -/
def repeatedLetter? (letter : Char) : Option Char :=
  if letter = 'M' then some 'L'
  else if letter = 'm' then some 'l'
  else if letter = 'Z' || letter = 'z' then none
  else some letter

def nextLetter? (last : Option Char) (c : Char) (rest : List Char) : Option (Char × List Char) :=
  match last with
  | none => if c = 'M' || c = 'm' then some (c, rest) else none
  | some letter =>
      if commandLetters.contains c.toLower then some (c, rest)
      else if c.isDigit || c = '.' || c = '-' || c = '+' then
        (repeatedLetter? letter).map fun letter => (letter, c :: rest)
      else none

/-- Follow path data. Every round takes at least one character, which the fuel bounds. -/
def followPath : Nat → Option Char → Pen → List Char → Pen
  | 0, _, pen, _ => pen
  | fuel + 1, last, pen, text =>
      match skipSpace text with
      | [] => pen
      | c :: rest =>
          match nextLetter? last c rest with
          | none => pen
          | some (letter, rest) =>
              let isRelative := letter.isLower
              let small := letter.toLower
              let step :=
                if small = 'a' then arcCommand? pen isRelative rest
                else (listNumbers? (numberCount small) rest).bind fun (numbers, rest) =>
                  (pen.draw? isRelative small numbers).map fun pen => (pen, rest)
              match step with
              | none => pen
              | some (pen, rest) => followPath fuel (some letter) pen rest

def pathOutline (text : List Char) : Outline :=
  withoutIdleMoves (followPath (text.length + 1) none .start text).drawn.reverse

end Chronogram.Picture
