import Chronogram.Proofs.Exact
import Chronogram.Proofs.Layout.Acceptance

/-!
Stacks of boxes.

Boxes are stacked by their heights alone: each one starts a fixed distance below the one before, and
the page ends that distance below the last one. As no box is without height, a box lies above all
boxes that come after it, and whatever stands in the room below the last one lies below them all.
-/

namespace Chronogram

section

variable {α : Type} [Scalar α]

namespace LifelineBox

variable {lifeline : Lifeline} {column : List Snapshot} {grid : Grid α} {top labelX : α}
  {box : LifelineBox α}

/-- Whatever is put into a box, its frame stays. -/
theorem Placed.eq_frame (placed : Placed lifeline column grid top labelX box) :
    box = { frame lifeline grid top labelX with
      stateRows := box.stateRows
      track := box.track
      shades := box.shades
      separators := box.separators
      attachments := box.attachments } := by
  cases placed <;> rfl

theorem Placed.top_eq (placed : Placed lifeline column grid top labelX box) : box.top = top := by
  rw [placed.eq_frame]
  rfl

theorem Placed.height_eq (placed : Placed lifeline column grid top labelX box) :
    box.height = heightOf lifeline := by
  rw [placed.eq_frame]
  rfl

/-- Boxes that stand one below the other from a top downwards, and the place of the next one. -/
inductive Stacked : α → List (LifelineBox α) → α → Prop where
  | nil (top : α) : Stacked top [] top
  | cons {top next : α} {box : LifelineBox α} {rest : List (LifelineBox α)}
      (starts : box.top = top) (stacked : Stacked (box.bottom + px Page.boxGap) rest next) :
      Stacked top (box :: rest) next

namespace Stacked

variable {boxes : List (LifelineBox α)} {next : α}

theorem top_of_head? (stacked : Stacked top boxes next) (first : box ∈ boxes.head?) :
    box.top = top := by
  cases stacked with
  | nil => simp at first
  | cons starts =>
      obtain rfl := Option.some.inj first
      exact starts

theorem isChain (stacked : Stacked top boxes next) :
    boxes.IsChain fun box below => below.top = box.bottom + px Page.boxGap := by
  induction stacked with
  | nil => exact .nil
  | cons _ stacked inductionHypothesis =>
      exact List.isChain_cons.mpr
        ⟨fun below first => stacked.top_of_head? first, inductionHypothesis⟩

theorem next_of_getLast? (stacked : Stacked top boxes next) (last : box ∈ boxes.getLast?) :
    next = box.bottom + px Page.boxGap := by
  induction stacked with
  | nil => simp at last
  | cons _ stacked inductionHypothesis =>
      cases stacked with
      | nil =>
          obtain rfl := Option.some.inj last
          rfl
      | cons =>
          rw [List.getLast?_cons_cons] at last
          exact inductionHypothesis last

theorem next_of_nil (stacked : Stacked top [] next) : next = top := by
  cases stacked
  rfl

end Stacked

end LifelineBox

namespace Page

variable {timeline : Timeline}

theorem stacked_of_stack {grid : Grid α} {lifelines : List Lifeline} {top next : α}
    {boxes : List (LifelineBox α)}
    (stacked : stack timeline grid top lifelines = .ok (boxes, next)) :
    LifelineBox.Stacked top boxes next := by
  induction lifelines generalizing top boxes with
  | nil =>
      cases stacked
      exact .nil _
  | cons lifeline rest inductionHypothesis =>
      unfold stack at stacked
      obtain ⟨box, laidOut, remaining⟩ := bind_eq_ok_iff.mp stacked
      obtain ⟨⟨others, last⟩, stackedRest, same⟩ := bind_eq_ok_iff.mp remaining
      cases same
      have starts := (LifelineBox.placed_of_layout laidOut).top_eq
      exact .cons starts (inductionHypothesis stackedRest)

/-- The measures of a page: its grid, its boxes from the first top down to its end, the place of its
legend, and its width. -/
structure Measures (measurer : Measurer α) (timeline : Timeline) (page : Page α) : Prop where
  grid : page.grid = gridOf measurer timeline
  stacked : LifelineBox.Stacked (px firstTop) page.lifelines page.height
  legend : page.legend.y = page.height - px legendRaise
  width : page.width = Scalar.max (page.grid.lastX + px rightPad)
    (measurer.width .title timeline.title + px titlePad + px titleMargin)

theorem measures_of_layout {measurer : Measurer α} {page : Page α}
    (laidOut : layout measurer timeline = .ok page) : Measures measurer timeline page := by
  unfold layout at laidOut
  obtain ⟨⟨boxes, height⟩, stacked, remaining⟩ := bind_eq_ok_iff.mp laidOut
  obtain ⟨spans, spanned, remaining⟩ := bind_eq_ok_iff.mp remaining
  obtain ⟨arrows, joined, same⟩ := bind_eq_ok_iff.mp remaining
  cases same
  exact ⟨rfl, stacked_of_stack stacked, rfl, rfl⟩

end Page

end

/-! ### Exact stacks -/

namespace LifelineBox

theorem heightOf_of_rows {lifeline : Lifeline} (rows : lifeline.style ≠ .simplified) :
    heightOf lifeline = ((max lifeline.states.size 1 - 1 : Nat) : ℝ) * 40 + 50 + 20 := by
  unfold heightOf
  cases style : lifeline.style with
  | simplified => exact absurd style rows
  | normal | slice => simp [rowHeight, upperMargin, lowerMargin]

theorem heightOf_of_simplified {lifeline : Lifeline} (simplified : lifeline.style = .simplified) :
    heightOf lifeline = (80 : ℝ) := by
  simp [heightOf, simplified, simplifiedHeight]

theorem heightOf_pos (lifeline : Lifeline) : (0 : ℝ) < heightOf lifeline := by
  by_cases simplified : lifeline.style = .simplified
  · rw [heightOf_of_simplified simplified]
    norm_num
  · rw [heightOf_of_rows simplified]
    positivity

theorem top_lt_bottom {box : LifelineBox ℝ} (tall : 0 < box.height) : box.top < box.bottom :=
  lt_add_of_pos_right box.top tall

theorem gap_eq : (px Page.boxGap : ℝ) = 45 := by
  simp [Page.boxGap]

namespace Stacked

variable {top next : ℝ} {boxes : List (LifelineBox ℝ)}

theorem between (stacked : Stacked top boxes next) (tall : ∀ box ∈ boxes, 0 < box.height) :
    top ≤ next ∧ ∀ box ∈ boxes, top ≤ box.top ∧ box.bottom + 45 ≤ next := by
  induction stacked with
  | nil top => exact ⟨le_refl top, by simp⟩
  | @cons top next box rest starts stacked inductionHypothesis =>
      obtain ⟨tallBox, tallRest⟩ := List.forall_mem_cons.mp tall
      obtain ⟨below, others⟩ := inductionHypothesis tallRest
      have positive := top_lt_bottom tallBox
      rw [gap_eq] at below others
      refine ⟨by linarith, List.forall_mem_cons.mpr ⟨⟨starts.ge, below⟩, ?_⟩⟩
      intro other membership
      obtain ⟨start, finish⟩ := others other membership
      exact ⟨by linarith, finish⟩

/-- Each box of a stack ends a gap before all boxes below it. -/
theorem pairwise (stacked : Stacked top boxes next) (tall : ∀ box ∈ boxes, 0 < box.height) :
    boxes.Pairwise fun box below => box.bottom + 45 ≤ below.top := by
  induction stacked with
  | nil => exact .nil
  | cons _ stacked inductionHypothesis =>
      obtain ⟨-, tallRest⟩ := List.forall_mem_cons.mp tall
      refine .cons ?_ (inductionHypothesis tallRest)
      intro below membership
      have start := ((stacked.between tallRest).2 below membership).1
      rwa [gap_eq] at start

end Stacked

end LifelineBox

end Chronogram
