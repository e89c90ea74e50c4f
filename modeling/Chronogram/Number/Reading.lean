import Chronogram.Number.Binary
import Chronogram.Text.Ascii
import Chronogram.Text.Numeral

/-!
Reading floating numbers.

A number is an optional sign, digits with at most one decimal point and at least one digit around
it, and an optional power of ten; or one of the names `inf`, `infinity` and `nan` in any letter
case. It is read exactly and then rounded once to the wanted format. Numbers beyond the format
become infinite, numbers below its smallest become zero.
-/

namespace Chronogram.Number

open Text

/-- The exact meaning of a numeral. -/
inductive Reading where
  | nan
  | infinite (negative : Bool)
  | decimal (negative : Bool) (digits : Nat) (exponent : Int)
  deriving Repr, DecidableEq

namespace Reading

/-- Take an optional sign off the front; true is a minus sign. -/
def sign : List Char → Bool × List Char
  | '-' :: rest => (true, rest)
  | '+' :: rest => (false, rest)
  | text => (false, text)

/-- Read the power of ten that may follow the digits, up to the end of the text. -/
def exponent? : List Char → Option Int
  | [] => some 0
  | marker :: rest =>
      if marker = 'e' ∨ marker = 'E' then
        let (negative, digits) := sign rest
        (Numeral.natural? digits).map fun n : Nat => if negative then -(n : Int) else (n : Int)
      else none

/-- Split off the digits behind a decimal point, if a text starts with one. -/
def splitFraction : List Char → List Char × List Char
  | '.' :: behind => (behind.takeWhile Char.isDigit, behind.dropWhile Char.isDigit)
  | text => ([], text)

/-- Put together the digits before and behind the point, of which there is one at least, and the
power of ten that a text behind them stands for. -/
def compose? (negative : Bool) (whole fraction rest : List Char) : Option Reading :=
  if whole.isEmpty && fraction.isEmpty then none
  else (exponent? rest).map fun power =>
    .decimal negative (Numeral.valueFrom 0 (whole ++ fraction)) (power - fraction.length)

/-- Read the digits around an optional point, and what follows them. -/
def digits? (negative : Bool) (text : List Char) : Option Reading :=
  let (fraction, rest) := splitFraction (text.dropWhile Char.isDigit)
  compose? negative (text.takeWhile Char.isDigit) fraction rest

def read? (text : List Char) : Option Reading :=
  let (negative, rest) := sign text
  let name := asciiLower rest
  if name = "inf".toList ∨ name = "infinity".toList then some (.infinite negative)
  else if name = "nan".toList then some .nan
  else digits? negative rest

/-- Round a reading to a format. Where the power of ten alone decides that the number lies beyond
every format, it is not expanded. -/
def round (format : Format) : Reading → Value
  | .nan => .nan
  | .infinite negative => .infinite negative
  | .decimal negative digits exponent =>
      let magnitude := exponent + (Nat.toDigits 10 digits).length
      if digits = 0 ∨ magnitude < -400 then .finite negative 0 format.leastExponent
      else if 400 < magnitude then .infinite negative
      else
        format.nearest negative (digits * Nat.pow 10 exponent.toNat)
          (Nat.pow 10 (-exponent).toNat)

end Reading

def read? (format : Format) (text : List Char) : Option Value :=
  (Reading.read? text).map (Reading.round format)

def readFloat? (text : List Char) : Option Float :=
  (read? Format.double text).map Value.toFloat

end Chronogram.Number
