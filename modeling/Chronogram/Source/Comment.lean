import Chronogram.Text.Blank

/-!
Comments at the end of a line.

A number sign starts a comment if it stands outside quoted fields and is the first character of the
line or follows a blank. Quotes are followed in the way quoted fields are read: a backslash inside a
field hides the next character, and a field without a closing quote runs to the end of the line.
-/

namespace Chronogram.Source

open Text

/-- Where in a line a character stands. -/
inductive Place where
  /-- Outside quotes, at the start of the line or behind a blank. -/
  | afterBlank
  /-- Outside quotes, behind a character that is not blank. -/
  | afterMark
  /-- Inside a quoted field. -/
  | quoted
  /-- Inside a quoted field, behind a backslash that hides the next character. -/
  | hidden
  deriving Repr, DecidableEq

/-- The place behind a character that does not start a comment. -/
def Place.next (place : Place) (c : Char) : Place :=
  match place with
  | .hidden => .quoted
  | .quoted => if c = '\\' then .hidden else if c = '"' then .afterMark else .quoted
  | _ => if c = '"' then .quoted else if isBlank c then .afterBlank else .afterMark

/-- The part of a line in front of its comment, starting from a place. -/
def beforeComment : Place → List Char → List Char
  | _, [] => []
  | place, c :: rest =>
      if place = .afterBlank ∧ c = '#' then [] else c :: beforeComment (place.next c) rest

def stripComment (line : List Char) : List Char :=
  beforeComment .afterBlank line

end Chronogram.Source
