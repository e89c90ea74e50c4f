import Mathlib.Data.List.Forall2

/-!
Lists that are related element by element.

What a function makes of the elements of one list is what another function makes of the elements of
the other list, as soon as it is so for related elements.
-/

namespace Chronogram

variable {α β γ : Type} {related : α → β → Prop} {values : List α} {others : List β}

theorem exists_of_forall₂ (all : List.Forall₂ related values others) {other : β}
    (membership : other ∈ others) : ∃ value ∈ values, related value other := by
  induction all with
  | nil => simp at membership
  | cons first _ inductionHypothesis =>
      rcases List.mem_cons.mp membership with rfl | among
      · exact ⟨_, List.mem_cons_self, first⟩
      · obtain ⟨value, stands, here⟩ := inductionHypothesis among
        exact ⟨value, List.mem_cons_of_mem _ stands, here⟩

theorem exists_getElem?_of_forall₂ (all : List.Forall₂ related values others) {index : Nat}
    {value : α} (here : values[index]? = some value) :
    ∃ other, others[index]? = some other ∧ related value other := by
  induction all generalizing index with
  | nil => simp at here
  | cons first _ inductionHypothesis =>
      cases index with
      | zero =>
          obtain rfl := Option.some.inj here
          exact ⟨_, rfl, first⟩
      | succ index => exact inductionHypothesis here

/-- Lists that look alike are related element by element. -/
theorem forall₂_of_map_eq {f : α → γ} {g : β → γ} (same : values.map f = others.map g) :
    List.Forall₂ (fun value other => f value = g other) values others := by
  have equal : List.Forall₂ Eq (values.map f) (others.map g) := by
    rw [same]
    exact List.forall₂_refl _
  simpa only [List.forall₂_map_left_iff, List.forall₂_map_right_iff] using equal

theorem flatMap_eq_of_forall₂ {f : α → List γ} {g : β → List γ}
    (all : List.Forall₂ related values others)
    (same : ∀ value other, related value other → f value = g other) :
    values.flatMap f = others.flatMap g := by
  induction all with
  | nil => rfl
  | cons first _ inductionHypothesis =>
      rw [List.flatMap_cons, List.flatMap_cons, same _ _ first, inductionHypothesis]

/-- Keeping related elements and looking at them in a way that respects the relation. -/
theorem map_filter_eq_of_forall₂ {f : α → γ} {g : β → γ} {p : α → Bool} {q : β → Bool}
    (all : List.Forall₂ related values others)
    (kept : ∀ value other, related value other → p value = q other)
    (same : ∀ value other, related value other → f value = g other) :
    (values.filter p).map f = (others.filter q).map g := by
  induction all with
  | nil => rfl
  | cons first _ inductionHypothesis =>
      rw [List.filter_cons, List.filter_cons, kept _ _ first]
      split
      · rw [List.map_cons, List.map_cons, same _ _ first, inductionHypothesis]
      · exact inductionHypothesis

theorem forall₂_modify {related : α → α → Prop} (reflexive : ∀ value, related value value)
    {f : α → α} {index : Nat}
    (changed : ∀ value, values[index]? = some value → related value (f value)) :
    List.Forall₂ related values (values.modify index f) := by
  induction values generalizing index with
  | nil =>
      rw [List.modify_nil]
      exact .nil
  | cons first rest inductionHypothesis =>
      cases index with
      | zero => exact .cons (changed first rfl) (List.forall₂_same.mpr fun value _ => reflexive value)
      | succ index => exact .cons (reflexive first) (inductionHypothesis changed)

end Chronogram
