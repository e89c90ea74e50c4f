import Chronogram.Proofs.FirstFault

/-!
Two computations with the same outcome.

They fail with the same error, or both succeed with values that are related. This is kept by doing
one computation after another, as long as what comes second respects the relation.
-/

namespace Chronogram

variable {ε α β γ δ : Type}

inductive SameOutcome (related : α → β → Prop) : Except ε α → Except ε β → Prop where
  | failed (error : ε) : SameOutcome related (.error error) (.error error)
  | done {value : α} {other : β} (here : related value other) :
      SameOutcome related (.ok value) (.ok other)

namespace SameOutcome

variable {related : α → β → Prop} {answers : γ → δ → Prop} {first : Except ε α}
  {second : Except ε β}

theorem of_eq {related : α → α → Prop} (reflexive : ∀ value, related value value)
    {first second : Except ε α} (same : first = second) : SameOutcome related first second := by
  subst same
  cases first with
  | error error => exact .failed error
  | ok value => exact .done (reflexive value)

theorem eq {first second : Except ε α} (same : SameOutcome Eq first second) : first = second := by
  cases same with
  | failed error => rfl
  | done here => rw [here]

theorem failed_or_done (same : SameOutcome related first second) :
    (∃ error, first = .error error ∧ second = .error error) ∨
      ∃ value other, first = .ok value ∧ second = .ok other ∧ related value other := by
  cases same with
  | failed error => exact .inl ⟨error, rfl, rfl⟩
  | done here => exact .inr ⟨_, _, rfl, rfl, here⟩

theorem bind (same : SameOutcome related first second) {f : α → Except ε γ} {g : β → Except ε δ}
    (next : ∀ value other, related value other → SameOutcome answers (f value) (g other)) :
    SameOutcome answers (first >>= f) (second >>= g) := by
  cases same with
  | failed error => exact .failed error
  | done here => exact next _ _ here

/-- The same computation in between leaves two computations related. -/
theorem bind_eq {first second : Except ε α} (same : first = second) {f : α → Except ε γ}
    {g : α → Except ε δ} (next : ∀ value, SameOutcome answers (f value) (g value)) :
    SameOutcome answers (first >>= f) (second >>= g) := by
  refine (of_eq (fun _ => rfl) same).bind ?_
  rintro value other rfl
  exact next value

end SameOutcome

end Chronogram
