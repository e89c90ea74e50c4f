/-!
The numbers that geometry is computed with.

Layout is written once, over any type with the operations below. It runs on doubles; statements
about exact geometry use a type whose operations are exact. `px` embeds the whole numbers that the
layout uses as constants.
-/

namespace Chronogram

/-- The operations of coordinates and lengths. -/
class Scalar (α : Type) extends Add α, Sub α, Mul α, Div α, Neg α where
  ofInt : Int → α
  ofFloat : Float → α
  sqrt : α → α
  max : α → α → α
  min : α → α → α
  isFinite : α → Bool
  less : α → α → Bool
  same : α → α → Bool

def px {α : Type} [Scalar α] (n : Int) : α :=
  Scalar.ofInt n

/-- The greater of two doubles; a value that is no number gives way to the other. -/
def floatMax (x y : Float) : Float :=
  if x.isNaN then y else if y.isNaN then x else if x < y then y else x

/-- The lesser of two doubles; a value that is no number gives way to the other. -/
def floatMin (x y : Float) : Float :=
  if x.isNaN then y else if y.isNaN then x else if y < x then y else x

instance : Scalar Float where
  ofInt := Float.ofInt
  ofFloat := id
  sqrt := Float.sqrt
  max := floatMax
  min := floatMin
  isFinite := Float.isFinite
  less x y := decide (x < y)
  same x y := x == y

end Chronogram
