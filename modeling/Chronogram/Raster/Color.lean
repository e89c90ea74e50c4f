import Chronogram.Markup.Entity
import Chronogram.Text.Ascii
import Chronogram.Text.Blank

/-!
Background colours.

A colour is one of three names, or a number sign with three, four, six or eight hexadecimal digits.
Each channel has one digit, which counts twice, or two. The channels are red, green, blue and alpha;
without an alpha channel a colour is opaque.
-/

namespace Chronogram.Raster

open Markup Text

/-- A colour with an alpha channel. -/
structure Color where
  red : Nat
  green : Nat
  blue : Nat
  alpha : Nat
  deriving Repr, DecidableEq

namespace Color

def transparent : Color := ⟨0, 0, 0, 0⟩

def white : Color := ⟨255, 255, 255, 255⟩

def black : Color := ⟨0, 0, 0, 255⟩

def doubled (digit : Nat) : Nat := 16 * digit + digit

def paired (high low : Nat) : Nat := 16 * high + low

def ofDigits? : List Nat → Option Color
  | [r, g, b] => some ⟨doubled r, doubled g, doubled b, 255⟩
  | [r, g, b, a] => some ⟨doubled r, doubled g, doubled b, doubled a⟩
  | [r, r', g, g', b, b'] => some ⟨paired r r', paired g g', paired b b', 255⟩
  | [r, r', g, g', b, b', a, a'] =>
      some ⟨paired r r', paired g g', paired b b', paired a a'⟩
  | _ => none

/-- Read a colour. Blanks around it and letter case do not matter. -/
def read? (text : List Char) : Option Color :=
  let name := asciiLower (trim text)
  if name = "transparent".toList then some transparent
  else if name = "white".toList then some white
  else if name = "black".toList then some black
  else match name with
    | '#' :: digits => (digits.mapM hexValue?).bind ofDigits?
    | _ => none

def channelText (channel : Nat) : List Char :=
  [Nat.digitChar (channel / 16 % 16), Nat.digitChar (channel % 16)]

/-- A colour as a number sign and eight digits. What cannot be seen has no colour. -/
def text (color : Color) : String :=
  let shown := if color.alpha = 0 then transparent else color
  String.ofList ('#' :: [shown.red, shown.green, shown.blue, shown.alpha].flatMap channelText)

end Color

end Chronogram.Raster
