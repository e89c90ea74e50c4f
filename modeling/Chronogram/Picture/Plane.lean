/-!
Points and affine maps of the plane.

Maps are read in double precision and applied in single precision. Products of maps that neither
turn nor slant keep to the axes, and all others are rounded once per entry.
-/

namespace Chronogram.Picture

structure Point (Number : Type) where
  x : Number
  y : Number
  deriving Repr

def Point.toSingle (point : Point Float) : Point Float32 :=
  ⟨point.x.toFloat32, point.y.toFloat32⟩

def Point.toDouble (point : Point Float32) : Point Float :=
  ⟨point.x.toFloat, point.y.toFloat⟩

/-- The map that takes `(x, y)` to `(a * x + c * y + e, b * x + d * y + f)`. -/
structure Affine (Number : Type) where
  a : Number
  b : Number
  c : Number
  d : Number
  e : Number
  f : Number
  deriving Repr

namespace Affine

/-- The map that takes every point to itself. -/
def identity : Affine Float := ⟨1, 0, 0, 1, 0, 0⟩

/-- The map that applies the second map first. -/
def after (m n : Affine Float) : Affine Float where
  a := m.a * n.a + m.c * n.b
  b := m.b * n.a + m.d * n.b
  c := m.a * n.c + m.c * n.d
  d := m.b * n.c + m.d * n.d
  e := m.a * n.e + m.c * n.f + m.e
  f := m.b * n.e + m.d * n.f + m.f

def toSingle (m : Affine Float) : Affine Float32 :=
  ⟨m.a.toFloat32, m.b.toFloat32, m.c.toFloat32, m.d.toFloat32, m.e.toFloat32, m.f.toFloat32⟩

/-- The map that moves every point by the same distances. -/
def displacement (x y : Float32) : Affine Float32 := ⟨1, 0, 0, 1, x, y⟩

/-- The map that takes every point to itself. -/
def still : Affine Float32 := displacement 0 0

def isSlanted (m : Affine Float32) : Bool := m.b != 0 || m.c != 0

/-- Whether a map changes lengths along the axes. -/
def isScaled (m : Affine Float32) : Bool := m.a != 1 || m.d != 1

/-- Whether a map takes every point to itself. -/
def isStill (m : Affine Float32) : Bool :=
  !m.isSlanted && !m.isScaled && m.e == 0 && m.f == 0

/-- The sum of two products, rounded once. -/
def sumOfProducts (x y z w : Float32) : Float32 :=
  (x.toFloat * y.toFloat + z.toFloat * w.toFloat).toFloat32

/-- The map that applies the second map first. -/
def compose (m n : Affine Float32) : Affine Float32 :=
  if m.isStill then n
  else if n.isStill then m
  else if !m.isSlanted && !n.isSlanted then
    ⟨m.a * n.a, 0, 0, m.d * n.d, m.a * n.e + m.e, m.d * n.f + m.f⟩
  else
    { a := sumOfProducts m.a n.a m.c n.b
      b := sumOfProducts m.b n.a m.d n.b
      c := sumOfProducts m.a n.c m.c n.d
      d := sumOfProducts m.b n.c m.d n.d
      e := sumOfProducts m.a n.e m.c n.f + m.e
      f := sumOfProducts m.b n.e m.d n.f + m.f }

def apply (m : Affine Float32) (point : Point Float32) : Point Float32 :=
  if m.isSlanted then
    ⟨point.x * m.a + point.y * m.c + m.e, point.x * m.b + point.y * m.d + m.f⟩
  else if m.isScaled then ⟨point.x * m.a + m.e, point.y * m.d + m.f⟩
  else ⟨point.x + m.e, point.y + m.f⟩

def leastScale : Float32 := 0.00000011920928955078125

/-- Whether all entries of a map are finite and no axis shrinks to a point. -/
def isValid (m : Affine Float32) : Bool :=
  [m.a, m.b, m.c, m.d, m.e, m.f].all Float32.isFinite &&
    leastScale < (m.a * m.a + m.c * m.c).sqrt && leastScale < (m.b * m.b + m.d * m.d).sqrt

end Affine

end Chronogram.Picture
