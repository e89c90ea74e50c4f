import Chronogram.Number.Binary

/-!
Decimal text of doubles.

The digits of a double are the fewest that read back as the same double, and of those the nearest to
it. They are found by trying ever finer decimal grids in exact arithmetic: on each grid only the two
neighbours of the number can lie in the interval of reals that round to it. A `Style` then says how
digits become text.
-/

namespace Chronogram.Number

/-- A non-negative decimal number: whole digits times a power of ten. -/
structure Decimal where
  digits : Nat
  exponent : Int
  deriving Repr, DecidableEq

/-- Which of two equally near decimals is taken. -/
inductive Tie where
  | up
  | even
  deriving Repr, DecidableEq

namespace Decimal

def length (n : Nat) : Nat :=
  (Nat.toDigits 10 n).length

/-- Move trailing zeros of the digits into the exponent, at most as many as the fuel allows. -/
def stripZeros : Nat → Decimal → Decimal
  | 0, d => d
  | fuel + 1, d =>
      if d.digits ≠ 0 ∧ d.digits % 10 = 0 then stripZeros fuel ⟨d.digits / 10, d.exponent + 1⟩
      else d

/-- The reals that round to a double, on a fine grid: the multiples of a power of ten. -/
structure Interval where
  /-- The least multiple that rounds to the double. -/
  least : Nat
  /-- The double, rounded down to a multiple. -/
  centre : Nat
  /-- Whether the double is a multiple itself. -/
  isExact : Bool
  /-- The greatest multiple that rounds to the double. -/
  greatest : Nat

/-- The power of ten of the first digit of a positive fraction, one more than its logarithm rounded
down: the number lies below `10 ^ point` and not below `10 ^ (point - 1)`. -/
def pointOf (numerator denominator : Nat) : Int :=
  if denominator ≤ numerator then length (numerator / denominator)
  else 1 - length ((denominator - 1) / numerator)

/-- The decimal places of the finest grid, one more than any double needs. -/
def finestPlaces : Nat := 18

/-- The finest grid for a positive double `mantissa * 2 ^ exponent`: its power of ten, and the
interval of the double on it. Below a full mantissa the next double is only half as far. The ends of
the interval round to the double if its mantissa is even. -/
def intervalOf (mantissa : Nat) (exponent : Int) : Int × Interval :=
  let format := Format.double
  let narrow := mantissa = format.fullMantissa ∧ format.leastExponent < exponent
  let (unit, denominator) := scaleByTwo 1 4 (-exponent)
  let centre := 4 * mantissa * unit
  let grid := pointOf centre denominator - finestPlaces
  let up := Nat.pow 10 (-grid).toNat
  let down := denominator * Nat.pow 10 grid.toNat
  let lower := (4 * mantissa - if narrow then 1 else 2) * unit * up
  let upper := (4 * mantissa + 2) * unit * up
  let closed := mantissa % 2 = 0
  (grid,
    { least := if closed then (lower + down - 1) / down else lower / down + 1
      centre := centre * up / down
      isExact := centre * up % down = 0
      greatest := if closed then upper / down else (upper + down - 1) / down - 1 })

/-- Whether a multiple of the power of ten of the grid lies in an interval. -/
def Interval.contains (interval : Interval) (multiple : Nat) : Bool :=
  interval.least ≤ multiple && multiple ≤ interval.greatest

/-- The nearest multiple of a coarser power of ten inside an interval, in multiples of that power,
given the step between two of them. The step is an even number, so that the part of the double below
the grid matters only halfway. -/
def Interval.nearest? (tie : Tie) (interval : Interval) (step : Nat) : Option Nat :=
  let below := interval.centre / step
  let twice := 2 * (interval.centre % step)
  let hasBelow := interval.contains (below * step)
  let hasAbove := interval.contains ((below + 1) * step)
  if hasBelow && hasAbove then
    let preferBelow :=
      twice < step || (twice == step && interval.isExact && tie == .even && below % 2 == 0)
    some (if preferBelow then below else below + 1)
  else if hasBelow then some below
  else if hasAbove then some (below + 1)
  else none

/-- The steps of the coarser grids with one digit, two digits and so on: their powers of ten. -/
def gridSteps : List (Nat × Nat) :=
  (List.range (finestPlaces - 1)).map fun places =>
    (finestPlaces - 1 - places, Nat.pow 10 (finestPlaces - 1 - places))

/-- The shortest decimal that reads back as the positive double `mantissa * 2 ^ exponent`; the
double format never needs more than seventeen digits. -/
def shortest (tie : Tie) (mantissa : Nat) (exponent : Int) : Decimal :=
  let (grid, interval) := intervalOf mantissa exponent
  let found := gridSteps.findSome? fun (power, step) =>
    (interval.nearest? tie step).map fun digits => ⟨digits, grid + power⟩
  stripZeros 20 (found.getD ⟨0, 0⟩)

/-- The digits with the decimal point where the exponent puts it, without an exponent. -/
def plain (d : Decimal) : List Char :=
  let digits := Nat.toDigits 10 d.digits
  match d.exponent with
  | .ofNat zeros => digits ++ List.replicate zeros '0'
  | .negSucc n =>
      let places := n + 1
      if places < digits.length then
        digits.take (digits.length - places) ++ '.' :: digits.drop (digits.length - places)
      else '0' :: '.' :: (List.replicate (places - digits.length) '0' ++ digits)

/-- One digit before the point, the others behind it, and a power of ten, which may have a plus
sign. -/
def scientific (plusSign : Bool) (d : Decimal) : List Char :=
  let digits := Nat.toDigits 10 d.digits
  let power := d.exponent + digits.length - 1
  let mantissa := match digits with
    | first :: next :: rest => first :: '.' :: next :: rest
    | short => short
  let sign := if plusSign && 0 ≤ power then ['+'] else []
  mantissa ++ 'e' :: (sign ++ (toString power).toList)

end Decimal

/-- How a finite double is written. -/
structure Style where
  /-- Which of two equally near shortest decimals is taken. -/
  tie : Tie
  /-- The places of the point between which no exponent is used, if there are such bounds. -/
  plainPoints : Option (Int × Int)
  /-- Whether whole numbers end in `.0`. -/
  wholeMark : Bool
  /-- Whether an exponent that is not negative has a sign. -/
  plusSign : Bool

namespace Style

/-- Plain decimals: never an exponent, and no mark on whole numbers. -/
def display : Style := ⟨.up, none, false, false⟩

def log : Style := ⟨.up, some (-3, 16), true, false⟩

def json : Style := ⟨.even, some (-4, 16), true, true⟩

/-- Write a finite double. -/
def magnitude (style : Style) (mantissa : Nat) (exponent : Int) : List Char :=
  if mantissa = 0 then if style.wholeMark then "0.0".toList else ['0']
  else
    let d := Decimal.shortest style.tie mantissa exponent
    let point := d.exponent + Decimal.length d.digits
    let isPlain := match style.plainPoints with
      | some (least, greatest) => least ≤ point && point ≤ greatest
      | none => true
    if isPlain then
      d.plain ++ if style.wholeMark && 0 ≤ d.exponent then ".0".toList else []
    else d.scientific style.plusSign

/-- Write a double; the values that are no numbers have names. -/
def write (style : Style) (x : Float) : List Char :=
  match Value.ofFloat x with
  | .nan => "NaN".toList
  | .infinite negative => if negative then "-inf".toList else "inf".toList
  | .finite negative mantissa exponent =>
      (if negative then ['-'] else []) ++ style.magnitude mantissa exponent

end Style

end Chronogram.Number
