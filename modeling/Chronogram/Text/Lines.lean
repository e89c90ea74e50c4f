/-!
Cutting a text into lines and into records at a separator.

A line ends at a line feed, and one carriage return before that line feed belongs to the line end.
A carriage return anywhere else, the very end of the text included, is part of its line.
-/

namespace Chronogram.Text

/-- Take the carriage return off the reversed characters of a terminated line. -/
def dropReturn : List Char → List Char
  | '\r' :: seen => seen
  | seen => seen

/-- Cut a text into lines, with the reversed characters of the current line in the accumulator. -/
def linesFrom (seen : List Char) : List Char → List (List Char)
  | [] => if seen.isEmpty then [] else [seen.reverse]
  | c :: rest =>
      if c = '\n' then (dropReturn seen).reverse :: linesFrom [] rest
      else linesFrom (c :: seen) rest

/-- The lines of a text, without their line ends. A final line feed opens no further line. -/
def lines (text : List Char) : List (List Char) :=
  linesFrom [] text

/-- Cut at every line feed, with the reversed characters of the current part in the accumulator. -/
def feedPartsFrom (seen : List Char) : List Char → List (List Char)
  | [] => [seen.reverse]
  | c :: rest =>
      if c = '\n' then seen.reverse :: feedPartsFrom [] rest
      else feedPartsFrom (c :: seen) rest

/-- The parts between line feeds: one more than there are line feeds, carriage returns kept. -/
def feedParts (text : List Char) : List (List Char) :=
  feedPartsFrom [] text

end Chronogram.Text
