/-!
Whole numbers in decimal.

The readers accept ASCII digits only, refuse an empty numeral, and check the range of the number
they read. Leading zeros are allowed.
-/

namespace Chronogram.Text.Numeral

/-- Numbers below this bound fit an unsigned 64-bit word. -/
def wordBound : Nat := 1 <<< 64

/-- Numbers below this bound fit an unsigned 32-bit word. -/
def halfWordBound : Nat := 1 <<< 32

/-- The value of a row of digits, added to what was read before. -/
def valueFrom (seen : Nat) : List Char → Nat
  | [] => seen
  | c :: rest => valueFrom (10 * seen + (c.toNat - '0'.toNat)) rest

/-- Whether a text is a non-empty row of ASCII digits. -/
def isNumeral (text : List Char) : Bool :=
  !text.isEmpty && text.all Char.isDigit

/-- Read a row of ASCII digits. -/
def natural? (text : List Char) : Option Nat :=
  if isNumeral text then some (valueFrom 0 text) else none

/-- Read digits after an optional plus sign, if the number lies below the bound. -/
def unsigned? (bound : Nat) (text : List Char) : Option Nat :=
  let digits := match text with
    | '+' :: rest => rest
    | _ => text
  (natural? digits).filter (· < bound)

/-- Read digits after an optional sign, if the number fits a signed word of 64 bits. -/
def signed? : List Char → Option Int
  | '-' :: digits => ((natural? digits).filter (· ≤ wordBound / 2)).map fun n => -(n : Int)
  | text => (unsigned? (wordBound / 2) text).map Int.ofNat

def ofNat (n : Nat) : List Char :=
  Nat.toDigits 10 n

/-- Write a number in decimal, with a minus sign if it is negative. -/
def ofInt : Int → List Char
  | .ofNat n => ofNat n
  | .negSucc n => '-' :: ofNat (n + 1)

end Chronogram.Text.Numeral
