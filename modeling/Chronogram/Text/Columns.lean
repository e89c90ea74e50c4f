import Chronogram.Text.Columns.Following

/-!
Display columns: how much room a line takes where all letters are equally wide.
-/

namespace Chronogram.Text

/-- The columns that a line takes, and what it is to a character before it. -/
def measureLine (line : List Char) : Int × Context :=
  line.foldr
    (fun c measured =>
      let (added, context) := measured.2.before c
      (measured.1 + added, context))
    (0, .lineEnd)

def columns (line : List Char) : Nat :=
  (measureLine line).1.toNat

end Chronogram.Text
