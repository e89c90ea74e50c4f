import Chronogram.Layout.Page
import Chronogram.Proofs.Outcome

/-!
What the parts of a layout depend on.

Of a time line, the boxes of lifelines see nothing but its columns. Of the boxes, spans and arrows
see little more: they look for a box by its name, and then a span takes the top of the box and an
arrow one of its points. So whatever else is changed in the boxes, all spans and arrows stay where
they are, and those that do not resolve fail as before.
-/

namespace Chronogram

variable {α : Type}

theorem Page.stack_congr [Scalar α] {timeline other : Timeline}
    (same : other.column = timeline.column) (grid : Grid α) (top : α)
    (lifelines : List Lifeline) :
    stack other grid top lifelines = stack timeline grid top lifelines := by
  induction lifelines generalizing top with
  | nil => rfl
  | cons lifeline rest inductionHypothesis => simp only [stack, same, inductionHypothesis]

namespace LifelineBox

/-- Boxes that spans and arrows cannot tell apart. -/
structure ConnectsAlike (before after : LifelineBox α) : Prop where
  name : after.name = before.name
  top : after.top = before.top
  attachments : after.attachments = before.attachments

variable {boxes others : List (LifelineBox α)}
  (same : List.Forall₂ ConnectsAlike boxes others)

include same

theorem rel_lastNamed? (wanted : String) :
    Option.Rel ConnectsAlike (lastNamed? boxes wanted) (lastNamed? others wanted) := by
  have backwards := List.forall₂_reverse_iff.mpr same
  unfold lastNamed?
  generalize boxes.reverse = first, others.reverse = second at backwards
  induction backwards with
  | nil => exact .none
  | @cons before after _ _ here _ inductionHypothesis =>
      rw [List.find?_cons, List.find?_cons, here.name]
      by_cases found : before.name = wanted
      · simpa only [found, decide_true] using Option.Rel.some here
      · simpa only [found, decide_false] using inductionHypothesis

theorem resolve_connectsAlike (tickCount : Nat) (referrer : Referrer) (wanted : String)
    (tick : Nat) :
    SameOutcome ConnectsAlike (resolve boxes tickCount referrer wanted tick)
      (resolve others tickCount referrer wanted tick) := by
  have related := rel_lastNamed? same wanted
  unfold resolve
  generalize lastNamed? boxes wanted = found, lastNamed? others wanted = foundAgain at related ⊢
  cases related with
  | none => exact .failed _
  | some here =>
      by_cases within : tick < tickCount
      · simpa only [within, ↓reduceIte] using .done here
      · simpa only [within, ↓reduceIte] using .failed _

theorem attachment_eq (tickCount : Nat) (arrowEnd : ArrowEnd) :
    attachment others tickCount arrowEnd = attachment boxes tickCount arrowEnd := by
  unfold attachment
  rcases (resolve_connectsAlike same tickCount .arrow arrowEnd.lifeline
      arrowEnd.tick).failed_or_done with ⟨fault, failed, again⟩ | ⟨box, other, found, again, here⟩
  · rw [failed, again]
  · rw [found, again]
    simp only [here.attachments]

end LifelineBox

variable [Scalar α] {boxes others : List (LifelineBox α)}
  (same : List.Forall₂ LifelineBox.ConnectsAlike boxes others)

include same

theorem SpanLayout.layout_eq (grid : Grid α) (span : Span) :
    layout others grid span = layout boxes grid span := by
  have resolved := LifelineBox.resolve_connectsAlike same grid.tickCount .span span.lifeline
  symm
  apply SameOutcome.eq
  refine (resolved span.originTick).bind fun box other here => ?_
  refine (resolved span.destTick).bind fun _ _ _ => ?_
  rw [here.top]
  exact .done rfl

theorem ArrowLayout.layout_eq (tickCount : Nat) (arrow : Arrow) :
    layout others tickCount arrow = layout boxes tickCount arrow := by
  unfold layout
  rw [LifelineBox.attachment_eq same, LifelineBox.attachment_eq same]

end Chronogram
