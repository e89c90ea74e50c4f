import Chronogram.Statement.Basic
import Chronogram.Text.Blank
import Chronogram.Text.Digit
import Chronogram.Text.Word

/-!
Patterns of lines.

A pattern describes the texts of one line form and the ways in which they split into numbered
fields. `Match` holds of every such way: where a text can be split in several ways it prefers none,
so it does not depend on the order in which a reader would try them.
-/

namespace Chronogram

open Text

/-- The numbered fields of a text, in the order in which they stand there. -/
abbrev Fields := List (Nat × List Char)

/-- A form of texts. -/
inductive Pattern where
  /-- One fixed text. -/
  | text (expected : List Char)
  /-- One character of a class. -/
  | one (belongs : Char → Bool)
  /-- One form behind another. -/
  | seq (first second : Pattern)
  /-- One of two forms. -/
  | either (left right : Pattern)
  /-- A form that may be left out. -/
  | optional (inner : Pattern)
  /-- Any number of texts of one form. -/
  | many (inner : Pattern)
  /-- A form whose text is a field. -/
  | field (number : Nat) (inner : Pattern)

namespace Pattern

/-- A text has a form and splits into these fields. -/
inductive Match : Pattern → List Char → Fields → Prop
  | text {expected} : Match (.text expected) expected []
  | one {belongs c} : belongs c = true → Match (.one belongs) [c] []
  | seq {first second line rest fields others} :
      Match first line fields → Match second rest others →
      Match (.seq first second) (line ++ rest) (fields ++ others)
  | left {left right line fields} :
      Match left line fields → Match (.either left right) line fields
  | right {left right line fields} :
      Match right line fields → Match (.either left right) line fields
  | absent {inner} : Match (.optional inner) [] []
  | present {inner line fields} :
      Match inner line fields → Match (.optional inner) line fields
  | done {inner} : Match (.many inner) [] []
  | more {inner line rest fields others} :
      Match inner line fields → Match (.many inner) rest others →
      Match (.many inner) (line ++ rest) (fields ++ others)
  | field {number inner line fields} :
      Match inner line fields → Match (.field number inner) line ((number, line) :: fields)

/-- Forms one behind the other. -/
def sequence : List Pattern → Pattern
  | [] => .text []
  | piece :: pieces => .seq piece (sequence pieces)

def row (belongs : Char → Bool) : Pattern :=
  .seq (.one belongs) (.many (.one belongs))

/-- A character of a quoted field: one that is neither a quote nor a backslash, or a backslash with
any character but a line feed. -/
def quotedChar : Pattern :=
  .either (.one fun c => c ≠ '"' && c ≠ '\\') (.seq (.text ['\\']) (.one (· ≠ '\n')))

/-- A quoted text whose field leaves the quotes out. -/
def quoted (number : Nat) : Pattern :=
  sequence [.text ['"'], .field number (.many quotedChar), .text ['"']]

def digits (number : Nat) : Pattern :=
  .field number (row isDigit)

/-- The slot of an arrow end. -/
def slot (number : Nat) : Pattern :=
  .optional (sequence [.text [':'], digits number])

/-- An end of an arrow: a tick, a quoted name, and perhaps a slot. -/
def arrowEnd (number : Nat) : List Pattern :=
  [.text ['T'], digits number, .text [':'], quoted (number + 1), slot (number + 2)]

def head (number : Nat) : Pattern :=
  .field number (.either (.text ['-', '>']) (.text ['=', '>']))

def position (number : Nat) : Pattern :=
  .optional (sequence [.text [':'], .field number (.seq (.optional (.text ['-'])) (row isDigit))])

/-- The label of an arrow, perhaps with its position. -/
def label (number : Nat) : Pattern :=
  .optional (sequence [row isBlank, quoted number, position (number + 1)])

def side (number : Nat) : Pattern :=
  .optional (sequence [.text [':'], .field number (.either (.text ['R']) (.text ['L']))])

end Pattern

open Pattern in
/-- The pieces of the lines of a kind. -/
def StatementKind.pieces : StatementKind → List Pattern
  | .config =>
      [.text "config".toList, row isBlank, .field 1 (row (!isBlank ·)), row isBlank,
        .field 2 (row (!isBlank ·))]
  | .title => [.text "title".toList, row isBlank, quoted 1]
  | .lifeline => [.text "lifeline".toList, row isBlank, quoted 1]
  | .style =>
      [.text "style".toList, row isBlank, quoted 1, row isBlank, .field 2 (row isWordChar)]
  | .state =>
      [.text "state".toList, row isBlank, quoted 1, row isBlank, quoted 2, row isBlank, digits 3]
  | .span =>
      [.text "span".toList, row isBlank, quoted 1, row isBlank, .text ['T'], digits 2, .text [':'],
        .text ['T'], digits 3, row isBlank, quoted 4]
  | .arrow =>
      arrowEnd 1 ++ .many (.one isBlank) :: head 4 :: .many (.one isBlank) ::
        (arrowEnd 5 ++ [label 8, side 10])
  | .tick =>
      [.text ['T'], digits 1, row isBlank, quoted 2, row isBlank,
        .either (quoted 3) (.field 4 (row fun c => !isBlank c && c ≠ '"'))]

/-- The form of the lines of a kind. -/
def StatementKind.pattern (kind : StatementKind) : Pattern :=
  Pattern.sequence kind.pieces

end Chronogram
