import Chronogram.Proofs.Diagram.InLine
import Chronogram.Proofs.Layout.Acceptance

/-!
Faults of a layout are worded on one line.

Their wording quotes the name of a lifeline that is declared or referred to, and the texts of a
diagram that is read from a text stand on one line.
-/

namespace Chronogram

open Source Text

def LayoutFault.lifeline : LayoutFault → String
  | .unknownLifeline _ name => name
  | .tickOutOfRange _ lifeline _ _ => lifeline
  | .attachmentOutOfRange lifeline _ _ _ => lifeline
  | .unknownState lifeline _ _ => lifeline

theorem LayoutFault.oneLine_message {fault : LayoutFault} (oneLine : OneLine fault.lifeline) :
    OneLine fault.message := by
  have referring : ∀ referrer : Referrer, OneLine referrer.name := by
    intro referrer
    cases referrer <;> decide +kernel
  cases fault with
  | unknownLifeline referrer name =>
      refine .append (.append (.append (referring referrer) ?_) oneLine) ?_ <;> decide +kernel
  | tickOutOfRange referrer lifeline tick tickCount =>
      have named : OneLine (referrer.name ++ " on lifeline \"" ++ lifeline) := by
        refine .append (.append (referring referrer) ?_) oneLine
        decide +kernel
      refine .append (.append (.append (.append (.append named ?_) (oneLine_toString tick)) ?_)
        (oneLine_toString tickCount)) ?_ <;> decide +kernel
  | attachmentOutOfRange lifeline tick slot available =>
      have named : OneLine ("arrow references attachment " ++ toString slot ++ " of lifeline \"" ++
          lifeline) := by
        refine .append (.append (.append ?_ (oneLine_toString slot)) ?_) oneLine <;> decide +kernel
      refine .append (.append (.append (.append named ?_) (oneLine_toString tick)) ?_)
        (oneLine_toString available) <;> decide +kernel
  | unknownState lifeline tick state =>
      refine .append (.append (.append (.append (.append ?_ oneLine) ?_) (oneLine_toString state))
        ?_) (oneLine_toString tick) <;> decide +kernel

namespace Timeline

variable {timeline : Timeline} {fault : LayoutFault}

theorem lifeline_of_tickFault? {referrer : Referrer} {name : String} {tick : Nat}
    (wrong : timeline.tickFault? referrer name tick = some fault) : fault.lifeline = name := by
  unfold tickFault? at wrong
  split at wrong
  · obtain rfl := Option.some.inj wrong
    rfl
  · obtain ⟨-, same⟩ := Option.ite_none_right_eq_some.mp wrong
    obtain rfl := Option.some.inj same
    rfl

theorem lifeline_of_endFault? {arrowEnd : ArrowEnd}
    (wrong : timeline.endFault? arrowEnd = some fault) : fault.lifeline = arrowEnd.lifeline := by
  rcases Option.or_eq_some_iff.mp wrong with atTick | ⟨-, atSlot⟩
  · exact lifeline_of_tickFault? atTick
  · obtain ⟨lifeline, -, here⟩ := Option.bind_eq_some_iff.mp atSlot
    obtain ⟨-, same⟩ := Option.ite_none_right_eq_some.mp here
    obtain rfl := Option.some.inj same
    rfl

/-- A fault is about a lifeline that is declared or referred to. -/
theorem lifeline_of_mem_faults (wrong : fault ∈ timeline.faults) :
    (∃ lifeline ∈ timeline.lifelines.values, fault.lifeline = lifeline.name) ∨
      (∃ span ∈ timeline.spans, fault.lifeline = span.lifeline) ∨
      ∃ arrow ∈ timeline.arrows,
        fault.lifeline = arrow.origin.lifeline ∨ fault.lifeline = arrow.dest.lifeline := by
  rcases List.mem_append.mp wrong with ofState | connected
  · obtain ⟨lifeline, membership, here⟩ := List.mem_flatMap.mp ofState
    unfold stateFaults at here
    split at here
    · simp at here
    · obtain ⟨tick, -, same⟩ := List.mem_filterMap.mp here
      obtain ⟨-, found⟩ := Option.ite_none_left_eq_some.mp same
      obtain rfl := Option.some.inj found
      exact .inl ⟨lifeline, membership, rfl⟩
  rcases List.mem_append.mp connected with ofSpan | ofArrow
  · obtain ⟨span, membership, here⟩ := List.mem_flatMap.mp ofSpan
    refine .inr (.inl ⟨span, membership, ?_⟩)
    rcases List.mem_append.mp here with atOrigin | atDest
    · exact lifeline_of_tickFault? (Option.mem_toList.mp atOrigin)
    · exact lifeline_of_tickFault? (Option.mem_toList.mp atDest)
  · obtain ⟨arrow, membership, here⟩ := List.mem_flatMap.mp ofArrow
    refine .inr (.inr ⟨arrow, membership, ?_⟩)
    rcases List.mem_append.mp here with atOrigin | atDest
    · exact .inl (lifeline_of_endFault? (Option.mem_toList.mp atOrigin))
    · exact .inr (lifeline_of_endFault? (Option.mem_toList.mp atDest))

end Timeline

theorem Diagram.InLine.oneLine_lifeline {diagram : Diagram} (inLine : diagram.InLine)
    {fault : LayoutFault} (wrong : fault ∈ diagram.timeline.faults) : OneLine fault.lifeline := by
  rcases Timeline.lifeline_of_mem_faults wrong with
    ⟨lifeline, membership, same⟩ | ⟨span, membership, same⟩ | ⟨arrow, membership, same⟩
  · obtain ⟨entry, stored, rfl⟩ := List.mem_map.mp membership
    exact same ▸ inLine.lifelines entry stored _ (by simp [Lifeline.texts])
  · exact same ▸ inLine.spans span membership _ (by simp [Span.texts])
  · rcases same with atOrigin | atDest
    · exact atOrigin ▸ inLine.arrows arrow membership _ (by simp [Arrow.texts])
    · exact atDest ▸ inLine.arrows arrow membership _ (by simp [Arrow.texts])

theorem Settings.oneLine_of_layout_error {settings : Settings} {text : String} {draft : Draft}
    {fault : LayoutFault} (parsed : settings.draft text = .ok draft)
    (failed : settings.layoutTimeline draft.diagram.timeline = .error fault) :
    OneLine fault.message := by
  apply LayoutFault.oneLine_message
  have named : ∀ entry ∈ draft.diagram.timeline.lifelines.entries, entry.2.name = entry.1 :=
    settings.named_draft parsed
  have first : draft.diagram.timeline.faults.head? = some fault := by
    have fails := fault?_eq_some_iff.mpr failed
    rwa [Settings.layoutTimeline, Page.fault?_layout named] at fails
  exact (settings.inLine_draft parsed).oneLine_lifeline (List.mem_of_head? first)

theorem Settings.oneLine_of_page_error {settings : Settings} {text : String} {fault : CompileFault}
    (failed : settings.page text = .error fault) : OneLine fault.message := by
  unfold Settings.page at failed
  cases parsed : settings.draft text with
  | error found =>
      simp only [parsed, Except.error.injEq] at failed
      subst failed
      exact oneLine_of_draft_error parsed
  | ok draft =>
      cases laidOut : settings.layoutTimeline draft.diagram.timeline with
      | error found =>
          simp only [parsed, laidOut, Except.error.injEq] at failed
          subst failed
          exact oneLine_of_layout_error parsed laidOut
      | ok page => simp [parsed, laidOut] at failed

end Chronogram
