import Chronogram.Scalar

/-!
Points, sizes and segments of the page, whose vertical axis points down.

`Point.towards` divides a segment in a ratio that may lie outside it, and `sideNormal` is the unit
normal of a segment that points to the right of the page.
-/

namespace Chronogram

/-- A point of the page; also used for the offset between two points. -/
structure Point (α : Type) where
  x : α
  y : α
  deriving Repr, DecidableEq

structure Size (α : Type) where
  width : α
  height : α
  deriving Repr, DecidableEq

/-- A line from one point to another. -/
structure Segment (α : Type) where
  start : Point α
  finish : Point α
  deriving Repr, DecidableEq

variable {α : Type} [Scalar α]

namespace Point

def add (p q : Point α) : Point α :=
  ⟨p.x + q.x, p.y + q.y⟩

def sub (p q : Point α) : Point α :=
  ⟨p.x - q.x, p.y - q.y⟩

def scale (p : Point α) (factor : α) : Point α :=
  ⟨p.x * factor, p.y * factor⟩

def neg (p : Point α) : Point α :=
  ⟨-p.x, -p.y⟩

def towards (p q : Point α) (part : α) : Point α :=
  p.add ((q.sub p).scale part)

end Point

/-- The unit normal of the segment between two points that never points to the left. On horizontal
segments it points down; where the points coincide it points to the right. -/
def sideNormal (p q : Point α) : Point α :=
  let d := q.sub p
  let length := Scalar.sqrt (d.x * d.x + d.y * d.y)
  if Scalar.isFinite length && Scalar.less (px 0) length then
    let n : Point α := ⟨-d.y / length, d.x / length⟩
    if Scalar.less n.x (px 0) || (Scalar.same n.x (px 0) && Scalar.less n.y (px 0)) then n.neg
    else n
  else ⟨px 1, px 0⟩

end Chronogram
