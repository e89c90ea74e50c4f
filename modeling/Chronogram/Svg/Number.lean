import Chronogram.Number.Decimal
import Chronogram.Text.Numeral

/-!
Numbers in SVG documents.

Numbers are plain decimals without an exponent. Rounding noise is removed: a number that is all but
a whole number is written as that number, and zero never has a sign. What is no finite number
becomes zero.
-/

namespace Chronogram.Svg

open Number Text

/-- Below this magnitude a number counts as zero. -/
def zeroBelow : Value := Value.ofFloat 1e-9

/-- Nearer than this to a whole number, a number counts as that whole number. -/
def wholeBelow : Value := Value.ofFloat 1e-6

/-- Whether a magnitude lies below a positive number. -/
def isBelow (mantissa : Nat) (exponent : Int) : Value → Bool
  | .finite _ m e => lessThan mantissa exponent m e
  | _ => false

/-- The whole number nearest to `mantissa / 2 ^ places`, a half going up, and the distance to it in
units of `1 / 2 ^ places`. -/
def nearestWhole (mantissa places : Nat) : Nat × Nat :=
  let unit := 1 <<< places
  let whole := (2 * mantissa + unit) / (2 * unit)
  (whole, (mantissa - whole * unit) + (whole * unit - mantissa))

def signedWhole (negative : Bool) (whole : Nat) : List Char :=
  if negative ∧ whole ≠ 0 then '-' :: Numeral.ofNat whole else Numeral.ofNat whole

/-- The text of a finite number that does not count as zero. -/
def finiteText (negative : Bool) (mantissa : Nat) (exponent : Int) : List Char :=
  let exact := (if negative then ['-'] else []) ++ Style.display.magnitude mantissa exponent
  match exponent with
  | .ofNat _ => exact
  | .negSucc n =>
      let (whole, distance) := nearestWhole mantissa (n + 1)
      if distance ≠ 0 ∧ isBelow distance exponent wholeBelow then signedWhole negative whole
      else exact

def numberText (x : Float) : List Char :=
  match Value.ofFloat x with
  | .finite negative mantissa exponent =>
      if isBelow mantissa exponent zeroBelow then ['0'] else finiteText negative mantissa exponent
  | _ => ['0']

end Chronogram.Svg
