/-!
Binary floating numbers as exact values.

A finite number of a binary format is a whole mantissa times a power of two. `Value` makes that
explicit, so that comparisons, rounding and decimal text can be decided in whole numbers.
`Format.nearest` rounds a quotient of whole numbers to a format, halves to the even mantissa.
-/

namespace Chronogram.Number

/-- A binary format: the bits of a full mantissa, the bits of the exponent field, and the power of
two of the last place of the smallest numbers. -/
structure Format where
  precision : Nat
  exponentBits : Nat
  leastExponent : Int
  deriving Repr, DecidableEq

@[inline]
def Format.double : Format := ⟨53, 11, -1074⟩

@[inline]
def Format.single : Format := ⟨24, 8, -149⟩

/-- A value of a binary format. -/
inductive Value where
  | nan
  | infinite (negative : Bool)
  | finite (negative : Bool) (mantissa : Nat) (exponent : Int)
  deriving Repr, DecidableEq

namespace Format

/-- The number of exponent fields below the one that marks infinities. -/
@[inline]
def fieldCount (format : Format) : Nat :=
  (1 <<< format.exponentBits) - 1

/-- The least mantissa with all bits in use. -/
@[inline]
def fullMantissa (format : Format) : Nat :=
  1 <<< (format.precision - 1)

/-- Read an encoding: sign, exponent field and fraction from the most to the least significant
bit. -/
@[inline]
def decode (format : Format) (bits : Nat) : Value :=
  let negative := (bits >>> (format.precision - 1 + format.exponentBits)) % 2 = 1
  let field := (bits >>> (format.precision - 1)) % (1 <<< format.exponentBits)
  let fraction := bits % format.fullMantissa
  if field = format.fieldCount then
    if fraction = 0 then .infinite negative else .nan
  else if field = 0 then .finite negative fraction format.leastExponent
  else .finite negative (format.fullMantissa + fraction) (format.leastExponent + (field - 1 : Int))

/-- Write the encoding of a value whose mantissa fits the format and is full unless the exponent is
the least one. -/
def encode (format : Format) : Value → Nat
  | .nan => (format.fieldCount <<< (format.precision - 1)) + format.fullMantissa / 2
  | .infinite negative =>
      ((negative.toNat <<< format.exponentBits) + format.fieldCount) <<< (format.precision - 1)
  | .finite negative mantissa exponent =>
      let sign := negative.toNat <<< (format.precision - 1 + format.exponentBits)
      if mantissa < format.fullMantissa then sign + mantissa
      else
        let field := (exponent - format.leastExponent).toNat + 1
        sign + (field <<< (format.precision - 1)) + (mantissa - format.fullMantissa)

end Format

/-- The two whole numbers whose quotient is `numerator / denominator` in units of `2 ^ exponent`. -/
def scaleByTwo (numerator denominator : Nat) (exponent : Int) : Nat × Nat :=
  match exponent with
  | .ofNat up => (numerator, denominator <<< up)
  | .negSucc down => (numerator <<< (down + 1), denominator)

/-- Round a quotient to the nearest whole number, a half to the even one. -/
def roundHalfEven (numerator denominator : Nat) : Nat :=
  let below := numerator / denominator
  let twice := 2 * (numerator % denominator)
  if twice < denominator then below
  else if denominator < twice then below + 1
  else if below % 2 = 0 then below else below + 1

/-- The exponent of the last place that a quotient is rounded at. In units of that place the quotient
fits a mantissa, and it fills one unless the exponent is the least of the format. -/
def Format.lastPlace (format : Format) (numerator denominator : Nat) : Int :=
  let size : Int := (Nat.log2 numerator : Int) - Nat.log2 denominator
  let guess := max format.leastExponent (size - format.precision)
  let (n, d) := scaleByTwo numerator denominator guess
  if n / d < 1 <<< format.precision then guess else guess + 1

/-- The value of a rounded mantissa. A mantissa that has grown by a bit is halved, and behind the
greatest exponent of the format the value is infinite. -/
def Format.settle (format : Format) (negative : Bool) (rounded : Nat) (place : Int) : Value :=
  let (mantissa, exponent) :=
    if rounded = 1 <<< format.precision then (format.fullMantissa, place + 1) else (rounded, place)
  if format.leastExponent + format.fieldCount ≤ exponent + 1 then .infinite negative
  else .finite negative mantissa exponent

/-- Round a quotient of whole numbers to the nearest value of a format. -/
def Format.nearest (format : Format) (negative : Bool) (numerator denominator : Nat) : Value :=
  if numerator = 0 then .finite negative 0 format.leastExponent
  else
    let place := format.lastPlace numerator denominator
    let (n, d) := scaleByTwo numerator denominator place
    format.settle negative (roundHalfEven n d) place

namespace Value

def ofFloat (x : Float) : Value :=
  Format.double.decode x.toBits.toNat

def ofSingle (x : Float32) : Value :=
  Format.single.decode x.toBits.toNat

def toFloat (value : Value) : Float :=
  Float.ofBits (UInt64.ofNat (Format.double.encode value))

def toSingle (value : Value) : Float32 :=
  Float32.ofBits (UInt32.ofNat (Format.single.encode value))

def isPositive : Value → Bool
  | .finite false mantissa _ => mantissa != 0
  | _ => false

end Value

/-- Whether `m * 2 ^ e` is less than `n * 2 ^ f`. -/
def lessThan (m : Nat) (e : Int) (n : Nat) (f : Int) : Bool :=
  if f ≤ e then 0 < n && m ≤ (n - 1) >>> (e - f).toNat else m >>> (f - e).toNat < n

/-- Where the powers of two are whole, the comparison is the one of the products. -/
theorem lessThan_iff (m : Nat) (e : Int) (n : Nat) (f : Int) :
    lessThan m e n f = true ↔ m <<< (e - min e f).toNat < n <<< (f - min e f).toNat := by
  unfold lessThan
  split
  case isTrue order =>
    rw [Int.min_eq_right order, Int.sub_self]
    simp only [Bool.and_eq_true, decide_eq_true_eq, Nat.shiftRight_eq_div_pow, Nat.shiftLeft_eq,
      Int.toNat_zero, Nat.pow_zero, Nat.mul_one]
    rw [Nat.le_div_iff_mul_le (Nat.two_pow_pos _)]
    omega
  case isFalse order =>
    rw [Int.min_eq_left (by omega), Int.sub_self]
    simp only [decide_eq_true_eq, Nat.shiftRight_eq_div_pow, Nat.shiftLeft_eq, Int.toNat_zero,
      Nat.pow_zero, Nat.mul_one]
    rw [Nat.div_lt_iff_lt_mul (Nat.two_pow_pos _)]

end Chronogram.Number
