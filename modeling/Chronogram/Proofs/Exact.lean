import Chronogram.Proofs.Number.Rounding
import Chronogram.Scalar

/-!
Exact geometry.

The layout is written over any numbers with the operations it needs. Over the real numbers these
operations are exact, and a double of the configuration stands for its exact value. What is proved of
lengths and positions there is a property of the layout, apart from rounding.
-/

namespace Chronogram

open Classical in
/-- Exact coordinates and lengths. -/
noncomputable instance : Scalar ℝ where
  ofInt n := n
  ofFloat x := (Number.Value.ofFloat x).toReal
  sqrt := Real.sqrt
  max := max
  min := min
  isFinite _ := true
  less x y := decide (x < y)
  same x y := decide (x = y)

@[simp]
theorem px_real (n : Int) : (px n : ℝ) = n := rfl

end Chronogram
