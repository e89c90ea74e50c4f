import Chronogram.Proofs.Layout.Attachment
import Mathlib.Data.List.Chain
import Mathlib.Data.List.Range

/-!
The ticks at which a state changes.

A track is put together from one piece per tick. A piece has the same number of points wherever the
state stays the same, and a fixed number of further points wherever it changes. So the points of a
track are counted by counting changes, and neighbours on a track are neighbours within a piece or
stand at the ends of two pieces in a row.
-/

namespace Chronogram

/-- The ticks whose state differs from the state of the tick before. -/
def changes (states : List Nat) : List Nat :=
  (List.range states.length).filter fun tick => 0 < tick ∧ states[tick]? ≠ states[tick - 1]?

def stateIn (states : List Nat) (tick : Nat) : Nat :=
  states[tick]?.getD 0

variable {states : List Nat} {tick before state : Nat}

theorem stateIn_of_getElem? (here : states[tick]? = some state) : stateIn states tick = state := by
  rw [stateIn, here, Option.getD_some]

theorem map_stateIn_range (states : List Nat) :
    (List.range states.length).map (stateIn states) = states := by
  refine List.ext_getElem (by simp) fun tick _ within => ?_
  rw [List.getElem_map, List.getElem_range]
  exact stateIn_of_getElem? (List.getElem?_eq_getElem within)

theorem zero_not_mem_changes : 0 ∉ changes states := by
  simp [changes]

theorem succ_mem_changes_iff (earlier : states[tick]? = some before)
    (here : states[tick + 1]? = some state) : tick + 1 ∈ changes states ↔ before ≠ state := by
  obtain ⟨within, -⟩ := List.getElem?_eq_some_iff.mp here
  simp only [changes, List.mem_filter, List.mem_range, within, decide_eq_true_eq, here,
    Nat.add_sub_cancel, earlier]
  simp [eq_comm]

theorem mem_changes_iff_isChange (within : tick < states.length) :
    tick ∈ changes states ↔
      isChange (previousOf (stateIn states) tick) (stateIn states tick) = true := by
  cases tick with
  | zero => simp [zero_not_mem_changes, previousOf, isChange]
  | succ tick =>
      have earlier := List.getElem?_eq_getElem (Nat.lt_of_succ_lt within)
      have here := List.getElem?_eq_getElem within
      rw [succ_mem_changes_iff earlier here, previousOf, stateIn_of_getElem? earlier,
        stateIn_of_getElem? here]
      simp [isChange]

theorem changes_eq_filter (states : List Nat) :
    changes states = (List.range states.length).filter fun tick =>
      isChange (previousOf (stateIn states) tick) (stateIn states tick) := by
  refine List.filter_congr fun tick membership => ?_
  have within := List.mem_range.mp membership
  rw [Bool.eq_iff_iff, ← mem_changes_iff_isChange within, changes, List.mem_filter]
  exact (and_iff_right membership).symm

theorem map_changes {β : Type} (f : Nat → β) (states : List Nat) :
    (changes states).map f = (List.range states.length).flatMap fun tick =>
      if isChange (previousOf (stateIn states) tick) (stateIn states tick) then [f tick] else [] := by
  rw [changes_eq_filter]
  induction List.range states.length with
  | nil => rfl
  | cons tick rest inductionHypothesis =>
      rw [List.filter_cons, List.flatMap_cons, ← inductionHypothesis]
      split <;> rfl

theorem length_flatten_map {β : Type} (ticks : List Nat) (piece : Nat → List β) (p : Nat → Bool)
    (extra : Nat) (counted : ∀ tick, (piece tick).length = if p tick then 1 + extra else 1) :
    (ticks.map piece).flatten.length = ticks.length + extra * ticks.countP p := by
  induction ticks with
  | nil => simp
  | cons tick rest inductionHypothesis =>
      rw [List.map_cons, List.flatten_cons, List.length_append, counted, inductionHypothesis,
        List.length_cons, List.countP_cons]
      split <;> simp only [Nat.mul_add] <;> omega

/-- Pieces that have one point at a tick, and some more where the state changes. -/
theorem length_flatten_pieces {β : Type} (states : List Nat) (piece : Nat → List β) (extra : Nat)
    (counted : ∀ tick, (piece tick).length =
      if isChange (previousOf (stateIn states) tick) (stateIn states tick) then 1 + extra else 1) :
    ((List.range states.length).map piece).flatten.length =
      states.length + extra * (changes states).length := by
  rw [length_flatten_map _ piece _ extra counted, List.length_range, changes_eq_filter,
    List.countP_eq_length_filter]

theorem isChain_flatten_pieces {β : Type} {related : β → β → Prop} {piece : Nat → List β}
    (count : Nat) (nonempty : ∀ tick, piece tick ≠ []) (inside : ∀ tick, (piece tick).IsChain related)
    (between : ∀ tick, ∀ last ∈ (piece tick).getLast?, ∀ first ∈ (piece (tick + 1)).head?,
      related last first) :
    ((List.range count).map piece).flatten.IsChain related := by
  refine (List.isChain_flatten ?_).mpr ⟨?_, ?_⟩
  · intro membership
    obtain ⟨tick, -, empty⟩ := List.mem_map.mp membership
    exact nonempty tick empty
  · intro points membership
    obtain ⟨tick, -, rfl⟩ := List.mem_map.mp membership
    exact inside tick
  · rw [List.isChain_map, List.isChain_range]
    exact fun tick _ => between tick

end Chronogram
