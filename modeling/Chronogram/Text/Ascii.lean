/-!
Case mapping that knows the ASCII letters only.
-/

namespace Chronogram.Text

/-- Map `A` to `Z` to lower case and leave every other character alone. -/
def asciiLower (text : List Char) : List Char :=
  text.map Char.toLower

end Chronogram.Text
