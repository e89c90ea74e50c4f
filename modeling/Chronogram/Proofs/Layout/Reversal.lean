import Mathlib.Tactic.LinearCombination
import Chronogram.Layout.Connection
import Chronogram.Proofs.Exact
import Chronogram.Proofs.FirstFault

/-!
Arrows drawn from their other end.

The unit normal of a segment that never points to the left, and down where it points to neither
side, belongs to the line and not to its direction. A label stands on that normal, so it does not
matter from which end its arrow is drawn and its position is counted, and the two sides of an arrow
lie opposite each other.
-/

namespace Chronogram

namespace Point

/-- The product of two offsets; zero if they stand at a right angle. -/
noncomputable def dot (p q : Point ℝ) : ℝ :=
  p.x * q.x + p.y * q.y

noncomputable def norm (p : Point ℝ) : ℝ :=
  √(p.dot p)

theorem dot_self_nonneg (p : Point ℝ) : 0 ≤ p.dot p :=
  add_nonneg (mul_self_nonneg p.x) (mul_self_nonneg p.y)

theorem scale_dot (p q : Point ℝ) (factor : ℝ) : (p.scale factor).dot q = factor * p.dot q := by
  simp only [dot, scale]
  ring

theorem norm_scale (p : Point ℝ) (factor : ℝ) : (p.scale factor).norm = |factor| * p.norm := by
  have square : (p.scale factor).dot (p.scale factor) = factor ^ 2 * p.dot p := by
    simp only [dot, scale]
    ring
  rw [norm, square, Real.sqrt_mul (sq_nonneg factor), Real.sqrt_sq_eq_abs, norm]

end Point

/-- A unit vector across the segment between two points that does not point to the left, and down if
it points to neither side. -/
structure IsSideNormal (p q n : Point ℝ) : Prop where
  unit : n.norm = 1
  across : n.dot (q.sub p) = 0
  rightward : 0 ≤ n.x
  downward : n.x = 0 → 0 < n.y

namespace IsSideNormal

variable {p q n m : Point ℝ}

theorem symm (normal : IsSideNormal p q n) : IsSideNormal q p n where
  unit := normal.unit
  across := by
    have across := normal.across
    simp only [Point.dot, Point.sub] at across ⊢
    linarith
  rightward := normal.rightward
  downward := normal.downward

theorem square (normal : IsSideNormal p q n) : n.x * n.x + n.y * n.y = 1 :=
  Real.sqrt_eq_one.mp normal.unit

/-- There is one such vector across a segment with a direction. -/
theorem unique (distinct : p ≠ q) (first : IsSideNormal p q n) (second : IsSideNormal p q m) :
    n = m := by
  have acrossFirst : n.x * (q.x - p.x) + n.y * (q.y - p.y) = 0 := first.across
  have acrossSecond : m.x * (q.x - p.x) + m.y * (q.y - p.y) = 0 := second.across
  have parallel : n.x * m.y - n.y * m.x = 0 := by
    have vertical : (q.x - p.x) * (n.x * m.y - n.y * m.x) = 0 := by
      linear_combination m.y * acrossFirst - n.y * acrossSecond
    have horizontal : (q.y - p.y) * (n.x * m.y - n.y * m.x) = 0 := by
      linear_combination n.x * acrossSecond - m.x * acrossFirst
    by_contra skew
    have sameX := (mul_eq_zero.mp vertical).resolve_right skew
    have sameY := (mul_eq_zero.mp horizontal).resolve_right skew
    exact distinct (by cases p; cases q; simp_all [sub_eq_zero])
  have unitFirst := first.square
  have unitSecond := second.square
  have sameX : n.x = n.dot m * m.x := by
    simp only [Point.dot]
    linear_combination -n.x * unitSecond + m.y * parallel
  have sameY : n.y = n.dot m * m.y := by
    simp only [Point.dot]
    linear_combination -n.y * unitSecond - m.x * parallel
  have sign : n.dot m * n.dot m = 1 := by
    rw [sameX, sameY] at unitFirst
    linear_combination unitFirst - n.dot m * n.dot m * unitSecond
  rcases mul_self_eq_one_iff.mp sign with same | opposite
  · rw [same, one_mul] at sameX sameY
    cases n
    cases m
    simp_all
  · rw [opposite, neg_one_mul] at sameX sameY
    have right := first.rightward
    have rightSecond := second.rightward
    have neither : n.x = 0 := by linarith
    have down := first.downward neither
    have downSecond := second.downward (by linarith)
    linarith

end IsSideNormal

/-- Of two opposite unit vectors across a segment one is the normal. -/
theorem isSideNormal_turned {p q n : Point ℝ} (unit : n.norm = 1) (across : n.dot (q.sub p) = 0) :
    IsSideNormal p q (if n.x < 0 ∨ n.x = 0 ∧ n.y < 0 then n.neg else n) := by
  have square : n.x * n.x + n.y * n.y = 1 := Real.sqrt_eq_one.mp unit
  split
  next leftward =>
    constructor
    · rw [← unit, Point.norm, Point.norm]
      simp [Point.dot, Point.neg]
    · rw [← neg_eq_zero, ← across]
      simp only [Point.dot, Point.neg]
      ring
    · rcases leftward with left | ⟨neither, up⟩ <;> simp [Point.neg] <;> linarith
    · intro neither
      rcases leftward with left | ⟨-, up⟩ <;> simp [Point.neg] at neither ⊢ <;> linarith
  next rightward =>
    push Not at rightward
    refine ⟨unit, across, rightward.1, fun neither => ?_⟩
    have nonnegative := rightward.2 neither
    rw [neither] at square
    exact lt_of_le_of_ne nonnegative fun zero => by simp [← zero] at square

theorem sideNormal_eq (p q : Point ℝ) :
    sideNormal p q =
      if 0 < (q.sub p).norm then
        let n : Point ℝ := ⟨-(q.sub p).y / (q.sub p).norm, (q.sub p).x / (q.sub p).norm⟩
        if n.x < 0 ∨ n.x = 0 ∧ n.y < 0 then n.neg else n
      else ⟨1, 0⟩ := by
  simp [sideNormal, Scalar.less, Scalar.same, Scalar.isFinite, Scalar.sqrt, Point.norm, Point.dot]

theorem isSideNormal_sideNormal (p q : Point ℝ) : IsSideNormal p q (sideNormal p q) := by
  rw [sideNormal_eq]
  split
  next apart =>
    have square : (q.sub p).x * (q.sub p).x + (q.sub p).y * (q.sub p).y =
        (q.sub p).norm * (q.sub p).norm := (Real.mul_self_sqrt (q.sub p).dot_self_nonneg).symm
    apply isSideNormal_turned
    · rw [Point.norm, Real.sqrt_eq_one, Point.dot]
      field_simp
      linarith
    · simp only [Point.dot]
      ring
  next together =>
    have nothing : (q.sub p).dot (q.sub p) = 0 := by
      rw [← Real.sqrt_eq_zero (q.sub p).dot_self_nonneg]
      exact le_antisymm (not_lt.mp together) (Real.sqrt_nonneg _)
    have level : (q.sub p).x = 0 := (mul_self_add_mul_self_eq_zero.mp nothing).1
    constructor <;> simp [Point.norm, Point.dot, level]

theorem sideNormal_comm (p q : Point ℝ) : sideNormal p q = sideNormal q p := by
  by_cases same : p = q
  · rw [same]
  · exact (isSideNormal_sideNormal p q).unique same (isSideNormal_sideNormal q p).symm

/-! ### Labels -/

/-- The point of an arrow that is a percentage of the way from its start. -/
noncomputable def pointAlong (start finish : Point ℝ) (position : Int) : Point ℝ :=
  start.towards finish (position / 100)

theorem pointAlong_swap (start finish : Point ℝ) (position : Int) :
    pointAlong finish start (100 - position) = pointAlong start finish position := by
  simp only [pointAlong, Point.towards, Point.add, Point.sub, Point.scale, Point.mk.injEq]
  push_cast
  constructor <;> ring

namespace LabelLayout

/-- Two labels that lie opposite each other at a point of an arrow, on its left and on its right. -/
structure Opposite (start finish point : Point ℝ) (left right : LabelLayout ℝ) : Prop where
  mirrored : left.position.sub point = (right.position.sub point).neg
  distant : (right.position.sub point).norm = 10
  across : (right.position.sub point).dot (finish.sub start) = 0
  ordered : left.position.x ≤ right.position.x
  sides : left.anchor = .finish ∧ right.anchor = .start

end LabelLayout

namespace ArrowLayout

theorem placeLabel_swap (start finish : Point ℝ) (position : Int) (side : LabelSide)
    (text : String) :
    placeLabel finish start (100 - position) side text =
      placeLabel start finish position side text := by
  have along := pointAlong_swap start finish position
  simp only [pointAlong] at along
  unfold placeLabel
  simp only [px_real, Int.cast_ofNat]
  rw [along, sideNormal_comm finish start]

theorem text_placeLabel (start finish : Point ℝ) (position : Int) (side : LabelSide)
    (text : String) : (placeLabel start finish position side text).text = text := by
  cases side <;> rfl

theorem sub_placeLabel_right (start finish : Point ℝ) (position : Int) (text : String) :
    (placeLabel start finish position .right text).position.sub
        (pointAlong start finish position) = (sideNormal start finish).scale 10 := by
  simp [placeLabel, pointAlong, Point.sub, Point.add, labelDistance]

theorem sub_placeLabel_left (start finish : Point ℝ) (position : Int) (text : String) :
    (placeLabel start finish position .left text).position.sub
        (pointAlong start finish position) = ((sideNormal start finish).scale 10).neg := by
  simp [placeLabel, pointAlong, Point.sub, Point.neg, labelDistance]

theorem opposite_placeLabel (start finish : Point ℝ) (position : Int) (text : String) :
    LabelLayout.Opposite start finish (pointAlong start finish position)
      (placeLabel start finish position .left text)
      (placeLabel start finish position .right text) := by
  have normal := isSideNormal_sideNormal start finish
  have right := sub_placeLabel_right start finish position text
  have left := sub_placeLabel_left start finish position text
  constructor
  · rw [left, right]
  · rw [right, Point.norm_scale, normal.unit]
    norm_num
  · rw [right, Point.scale_dot, normal.across, mul_zero]
  · have rightX := congrArg Point.x right
    have leftX := congrArg Point.x left
    have rightward := normal.rightward
    simp only [Point.sub, Point.scale, Point.neg] at rightX leftX
    linarith
  · exact ⟨rfl, rfl⟩

/-- An arrow on the page with its ends swapped. -/
def reversed (arrow : ArrowLayout ℝ) : ArrowLayout ℝ :=
  { arrow with start := arrow.finish, finish := arrow.start }

end ArrowLayout

/-- The arrow between the same points in the other direction. Its label is counted from the other
end. -/
def Arrow.reversed (arrow : Arrow) : Arrow :=
  { arrow with
    origin := arrow.dest
    dest := arrow.origin
    labelPosition := 100 - arrow.labelPosition }

namespace ArrowLayout

variable {boxes : List (LifelineBox ℝ)} {tickCount : Nat} {arrow : Arrow} {drawn : ArrowLayout ℝ}

/-- An arrow runs between the points of its ends. -/
theorem layout_eq_ok_iff : layout boxes tickCount arrow = .ok drawn ↔
    LifelineBox.attachment boxes tickCount arrow.origin = .ok drawn.start ∧
      LifelineBox.attachment boxes tickCount arrow.dest = .ok drawn.finish ∧
      drawn.style = arrow.style ∧
      drawn.label = arrow.label.map
        (placeLabel drawn.start drawn.finish arrow.labelPosition arrow.labelSide) := by
  simp only [layout, bind_eq_ok_iff]
  constructor
  · rintro ⟨start, fromStart, finish, toFinish, same⟩
    cases same
    exact ⟨fromStart, toFinish, rfl, rfl⟩
  · rintro ⟨fromStart, toFinish, style, label⟩
    refine ⟨_, fromStart, _, toFinish, ?_⟩
    rw [← style, ← label]

theorem layout_reversed (laidOut : layout boxes tickCount arrow = .ok drawn) :
    layout boxes tickCount arrow.reversed = .ok drawn.reversed := by
  obtain ⟨fromStart, toFinish, style, label⟩ := layout_eq_ok_iff.mp laidOut
  refine layout_eq_ok_iff.mpr ⟨toFinish, fromStart, style, ?_⟩
  have swapped := funext (placeLabel_swap drawn.start drawn.finish arrow.labelPosition
    arrow.labelSide)
  exact label.trans (congrArg (Option.map · arrow.label) swapped.symm)

variable {text : String} (labelled : arrow.label = some text)

include labelled

theorem label_of_layout (laidOut : layout boxes tickCount arrow = .ok drawn) :
    drawn.label = some (placeLabel drawn.start drawn.finish arrow.labelPosition arrow.labelSide
      text) := by
  have placed := (layout_eq_ok_iff.mp laidOut).2.2.2
  rwa [labelled] at placed

theorem layout_onSide (laidOut : layout boxes tickCount arrow = .ok drawn) (side : LabelSide) :
    layout boxes tickCount { arrow with labelSide := side } =
      .ok { drawn with
        label := some (placeLabel drawn.start drawn.finish arrow.labelPosition side text) } := by
  obtain ⟨fromStart, toFinish, style, -⟩ := layout_eq_ok_iff.mp laidOut
  refine layout_eq_ok_iff.mpr ⟨fromStart, toFinish, style, ?_⟩
  rw [labelled]
  rfl

end ArrowLayout

/-- A label does not depend on the end from which its arrow is drawn. The unit normal of a segment
is the same in both directions. So the arrow in the other direction has the same label at the same
place, and a label on the other side of the arrow lies opposite, the right one never to the left. -/
theorem labels_are_undirected :
    (∀ p q : Point ℝ, sideNormal p q = sideNormal q p ∧ IsSideNormal p q (sideNormal p q)) ∧
    ∀ (boxes : List (LifelineBox ℝ)) (tickCount : Nat) (arrow : Arrow) (text : String)
      (drawn : ArrowLayout ℝ), arrow.label = some text →
      ArrowLayout.layout boxes tickCount arrow = .ok drawn →
      (∃ label, drawn.label = some label ∧ label.text = text ∧
        ArrowLayout.layout boxes tickCount arrow.reversed = .ok drawn.reversed) ∧
      ∃ left right,
        ArrowLayout.layout boxes tickCount { arrow with labelSide := .left } =
          .ok { drawn with label := some left } ∧
        ArrowLayout.layout boxes tickCount { arrow with labelSide := .right } =
          .ok { drawn with label := some right } ∧
        LabelLayout.Opposite drawn.start drawn.finish
          (pointAlong drawn.start drawn.finish arrow.labelPosition) left right := by
  refine ⟨fun p q => ⟨sideNormal_comm p q, isSideNormal_sideNormal p q⟩, ?_⟩
  intro boxes tickCount arrow text drawn labelled laidOut
  have label := ArrowLayout.label_of_layout labelled laidOut
  have sameText := ArrowLayout.text_placeLabel drawn.start drawn.finish arrow.labelPosition
    arrow.labelSide text
  refine ⟨⟨_, label, sameText, ArrowLayout.layout_reversed laidOut⟩, _, _,
    ArrowLayout.layout_onSide labelled laidOut .left,
    ArrowLayout.layout_onSide labelled laidOut .right, ?_⟩
  exact ArrowLayout.opposite_placeLabel drawn.start drawn.finish arrow.labelPosition text

/-- A box of which only the points that it offers at its one tick matter. -/
noncomputable def postBox (name : String) (points : List (Point ℝ)) : LifelineBox ℝ :=
  { LifelineBox.frame (Lifeline.declared name) ⟨0, 50, 1⟩ 0 0 with attachments := [points] }

/-- An arrow that rises to the right, with a label that is counted beyond its end. -/
def risingArrow : Arrow where
  origin := ⟨"low", 0, 0⟩
  dest := ⟨"high", 0, 1⟩
  label := some "climb"
  labelPosition := 150
  labelSide := .right
  style := .solid

theorem risingArrow_is_undirected :
    risingArrow.label = some "climb" ∧ risingArrow.reversed.labelPosition = -50 ∧
    ∃ drawn, ArrowLayout.layout [postBox "low" [⟨0, 0⟩], postBox "high" [⟨0, 0⟩, ⟨30, -40⟩]] 1
        risingArrow = .ok drawn ∧
      ArrowLayout.layout [postBox "low" [⟨0, 0⟩], postBox "high" [⟨0, 0⟩, ⟨30, -40⟩]] 1
        risingArrow.reversed = .ok drawn.reversed ∧
      pointAlong drawn.start drawn.finish 150 = ⟨45, -60⟩ ∧
      ∃ left right, LabelLayout.Opposite drawn.start drawn.finish ⟨45, -60⟩ left right := by
  have laidOut : ArrowLayout.layout
      [postBox "low" [⟨0, 0⟩], postBox "high" [⟨0, 0⟩, ⟨30, -40⟩]] 1 risingArrow =
        .ok ⟨⟨0, 0⟩, ⟨30, -40⟩, .solid, some (ArrowLayout.placeLabel ⟨0, 0⟩ ⟨30, -40⟩ 150 .right
          "climb")⟩ := rfl
  have beyond : pointAlong ⟨0, 0⟩ ⟨30, -40⟩ 150 = ⟨45, -60⟩ := by
    norm_num [pointAlong, Point.towards, Point.add, Point.sub, Point.scale]
  obtain ⟨⟨-, -, -, reversed⟩, left, right, -, -, opposite⟩ :=
    labels_are_undirected.2 _ 1 risingArrow "climb" _ rfl laidOut
  refine ⟨rfl, rfl, _, laidOut, reversed, beyond, left, right, ?_⟩
  exact beyond ▸ opposite

end Chronogram
