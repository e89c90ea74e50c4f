import Chronogram.Proofs.Layout.Acceptance
import Chronogram.Proofs.Layout.Change

/-!
Staircases.

At each tick a staircase stands on the row of the state, and where the state changes it comes in on
the row of the state before. So it leaves one tick and reaches the next one on the same row, and
steps from row to row on a tick: no part of it is diagonal.
-/

namespace Chronogram

variable {α : Type} [Scalar α] {grid : Grid α} {height : Nat → α} {states : List Nat}
  {tick before state : Nat}

namespace Staircase

theorem corners_eq (grid : Grid α) (height : Nat → α) (states : List Nat) :
    corners grid height states = (List.range states.length).map fun tick =>
      cornersAt grid height tick (previousOf (stateIn states) tick) (stateIn states tick) := by
  have described := corners_range grid height (stateIn states) states.length
  rwa [map_stateIn_range] at described

theorem length_corners : (corners grid height states).length = states.length := by
  rw [corners_eq, List.length_map, List.length_range]

theorem getElem?_corners (here : states[tick]? = some state) :
    (corners grid height states)[tick]? =
      some (cornersAt grid height tick (previousOf (stateIn states) tick) state) := by
  obtain ⟨within, -⟩ := List.getElem?_eq_some_iff.mp here
  rw [corners_eq, List.getElem?_map, List.getElem?_range within, Option.map_some,
    stateIn_of_getElem? here]

theorem getElem?_corners_zero (here : states[0]? = some state) :
    (corners grid height states)[0]? = some [⟨grid.x 0, height state⟩] :=
  getElem?_corners here

theorem getElem?_corners_succ (earlier : states[tick]? = some before)
    (here : states[tick + 1]? = some state) :
    (corners grid height states)[tick + 1]? = some (if before = state
      then [⟨grid.x (tick + 1), height state⟩]
      else [⟨grid.x (tick + 1), height before⟩, ⟨grid.x (tick + 1), height state⟩]) := by
  rw [getElem?_corners here, previousOf, stateIn_of_getElem? earlier]
  rfl

theorem length_flatten_corners :
    (corners grid height states).flatten.length = states.length + (changes states).length := by
  rw [corners_eq, length_flatten_pieces states _ 1 fun tick => length_cornersAt ..,
    Nat.one_mul]

theorem getLast?_cornersAt (tick : Nat) (previous : Option Nat) (state : Nat) :
    (cornersAt grid height tick previous state).getLast? = some ⟨grid.x tick, height state⟩ := by
  cases previous with
  | none => rfl
  | some before => by_cases same : before = state <;> simp [cornersAt, same]

theorem head?_cornersAt (tick before state : Nat) :
    (cornersAt grid height tick (some before) state).head? =
      some ⟨grid.x tick, height before⟩ := by
  by_cases same : before = state <;> simp [cornersAt, same]

theorem cornersAt_ne_nil (tick : Nat) (previous : Option Nat) (state : Nat) :
    cornersAt grid height tick previous state ≠ [] := by
  intro empty
  have last : (cornersAt grid height tick previous state).getLast? =
      some ⟨grid.x tick, height state⟩ := getLast?_cornersAt tick previous state
  rw [empty] at last
  cases last

theorem isChain_cornersAt (tick : Nat) (previous : Option Nat) (state : Nat) :
    (cornersAt grid height tick previous state).IsChain fun point next =>
      point.x = next.x ∨ point.y = next.y := by
  cases previous with
  | none => exact List.isChain_singleton _
  | some before => by_cases same : before = state <;> simp [cornersAt, same]

theorem isChain_flatten_corners :
    (corners grid height states).flatten.IsChain fun point next =>
      point.x = next.x ∨ point.y = next.y := by
  rw [corners_eq]
  refine isChain_flatten_pieces _ (fun tick => ?_) (fun tick => ?_) ?_
  · exact cornersAt_ne_nil _ _ _
  · exact isChain_cornersAt _ _ _
  · -- Between two ticks it keeps the row of the state of the first one.
    intro tick point leaves next reaches
    rw [getLast?_cornersAt, Option.mem_some_iff] at leaves
    rw [previousOf, head?_cornersAt, Option.mem_some_iff] at reaches
    subst leaves reaches
    exact .inr rfl

end Staircase

namespace LifelineBox

/-- A box whose track steps from row to row at the changes. -/
structure Stepped (lifeline : Lifeline) (states : List Nat) (grid : Grid α)
    (box : LifelineBox α) : Prop where
  rows : box.stateRows.map (fun row => (row.index, row.label, row.y)) =
    lifeline.states.labels.map fun (index, label) => (index, label, rowY box.bottom index)
  ticks : box.attachments.length = states.length
  first : ∀ state, states[0]? = some state →
    box.attachments[0]? = some [⟨grid.x 0, rowY box.bottom state⟩]
  stay : ∀ tick state, states[tick]? = some state → states[tick + 1]? = some state →
    box.attachments[tick + 1]? = some [⟨grid.x (tick + 1), rowY box.bottom state⟩]
  step : ∀ tick before state, states[tick]? = some before → states[tick + 1]? = some state →
    before ≠ state → box.attachments[tick + 1]? =
      some [⟨grid.x (tick + 1), rowY box.bottom before⟩,
        ⟨grid.x (tick + 1), rowY box.bottom state⟩]
  track : box.track = .staircase box.attachments.flatten
  points : box.attachments.flatten.length = states.length + (changes states).length
  straight : box.attachments.flatten.IsChain fun point next =>
    point.x = next.x ∨ point.y = next.y
  crossing : ∀ tick before, tick + 1 < states.length → states[tick]? = some before →
    ∃ leaving reaching, box.attachments[tick]? = some leaving ∧
      box.attachments[tick + 1]? = some reaching ∧
      leaving.getLast? = some ⟨grid.x tick, rowY box.bottom before⟩ ∧
      reaching.head? = some ⟨grid.x (tick + 1), rowY box.bottom before⟩

theorem stepped_withStaircase (lifeline : Lifeline) (column : List Snapshot) (grid : Grid α)
    (box : LifelineBox α) :
    Stepped lifeline (column.map Snapshot.state) grid
      (box.withStaircase grid lifeline.states column) where
  rows := by
    unfold withStaircase stateRowsOf
    rw [List.map_map]
    rfl
  ticks := Staircase.length_corners
  first := fun _ => Staircase.getElem?_corners_zero
  stay := by
    intro tick state earlier here
    rw [withStaircase, Staircase.getElem?_corners_succ earlier here, if_pos rfl]
    rfl
  step := by
    intro tick before state earlier here different
    rw [withStaircase, Staircase.getElem?_corners_succ earlier here, if_neg different]
    rfl
  track := rfl
  points := Staircase.length_flatten_corners
  straight := Staircase.isChain_flatten_corners
  crossing := by
    intro tick before within earlier
    have here := List.getElem?_eq_getElem within
    refine ⟨_, _, Staircase.getElem?_corners earlier, Staircase.getElem?_corners here, ?_, ?_⟩
    · exact Staircase.getLast?_cornersAt _ _ _
    · rw [previousOf, stateIn_of_getElem? earlier]
      exact Staircase.head?_cornersAt _ _ _

theorem Placed.stepped {lifeline : Lifeline} {column : List Snapshot} {top labelX : α}
    {box : LifelineBox α} (placed : Placed lifeline column grid top labelX box)
    (rows : lifeline.style ≠ .simplified) :
    Stepped lifeline (column.map Snapshot.state) grid box := by
  cases placed with
  | bus simplified => exact absurd simplified rows
  | staircase => exact stepped_withStaircase lifeline column grid _
  | shaded =>
      have stepped := stepped_withStaircase lifeline column grid (frame lifeline grid top labelX)
      exact ⟨stepped.rows, stepped.ticks, stepped.first, stepped.stay, stepped.step, stepped.track,
        stepped.points, stepped.straight, stepped.crossing⟩

end LifelineBox

end Chronogram
