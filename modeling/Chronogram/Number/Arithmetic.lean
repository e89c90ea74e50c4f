import Chronogram.Number.Binary

/-!
Arithmetic on binary floating numbers.

Each operation is exact up to one rounding of its result to the wanted format.
-/

namespace Chronogram.Number.Value

/-- Round a whole multiple of a power of two to a format. -/
def ofScaled (format : Format) (negative : Bool) (multiple : Nat) (exponent : Int) : Value :=
  let (n, d) := scaleByTwo multiple 1 (-exponent)
  format.nearest negative n d

def roundTo (format : Format) : Value → Value
  | .finite negative mantissa exponent => ofScaled format negative mantissa exponent
  | other => other

/-- The single nearest to a double. The conversion of the machine gives the same, but it is closed
to proofs. -/
def singleOf (x : Float) : Float32 :=
  ((ofFloat x).roundTo Format.single).toSingle

def signed (negative : Bool) (mantissa : Nat) : Int :=
  if negative then -(mantissa : Int) else mantissa

/-- Add two values. The sum of two zeros is negative only if both are. -/
def plus (format : Format) : Value → Value → Value
  | .finite s m e, .finite t n f =>
      let least := min e f
      let sum := signed s (m <<< (e - least).toNat) + signed t (n <<< (f - least).toNat)
      ofScaled format (sum < 0 || (sum = 0 && s && t)) sum.natAbs least
  | .infinite s, .infinite t => if s = t then .infinite s else .nan
  | .infinite s, .finite .. => .infinite s
  | .finite .., .infinite t => .infinite t
  | .nan, _ => .nan
  | _, .nan => .nan

def negated : Value → Value
  | .nan => .nan
  | .infinite negative => .infinite !negative
  | .finite negative mantissa exponent => .finite (!negative) mantissa exponent

def minus (format : Format) (x y : Value) : Value :=
  plus format x y.negated

def times (format : Format) : Value → Value → Value
  | .finite s m e, .finite t n f => ofScaled format (s != t) (m * n) (e + f)
  | .infinite s, .infinite t => .infinite (s != t)
  | .infinite s, .finite t n _ => if n = 0 then .nan else .infinite (s != t)
  | .finite s m _, .infinite t => if m = 0 then .nan else .infinite (s != t)
  | .nan, _ => .nan
  | _, .nan => .nan

end Chronogram.Number.Value
