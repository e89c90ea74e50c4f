import Chronogram.Compiler
import Chronogram.Proofs.Diagram.Catalog
import Chronogram.Proofs.Diagram.Effect
import Chronogram.Proofs.Diagram.InPlace
import Chronogram.Proofs.Markup.Safe

/-!
What holds of every diagram while it is built.

The stages after reading look lifelines up by their names, keep one row for each tick and write the
texts of a diagram as they are. They may do so because of an invariant: the blank diagram has it,
and each effect of a statement keeps it. A line that is at fault leaves the diagram alone, so the
invariant holds after any lines, in any order, whichever of them are at fault.
-/

namespace Chronogram

open Text

/-- A text that has been escaped. -/
def IsMarkup (text : String) : Prop :=
  ∃ raw, text = plainMarkup raw

theorem isMarkup_fieldMarkup (raw : String) : IsMarkup (fieldMarkup raw) :=
  ⟨String.ofList (Quoted.unescape raw.toList), by simp [fieldMarkup, plainMarkup]⟩

theorem IsMarkup.safe {text : String} (escaped : IsMarkup text) : Markup.Safe text.toList := by
  obtain ⟨raw, rfl⟩ := escaped
  exact safe_plainMarkup raw

/-- A lifeline as it may stand under a key. -/
structure Lifeline.WellBuilt (key : String) (lifeline : Lifeline) : Prop where
  named : lifeline.name = key
  name : IsMarkup lifeline.name
  labels : ∀ label, some label ∈ lifeline.states.slots → IsMarkup label
  size : lifeline.states.size ≤ 4097
  compact : lifeline.states.Compact

def Lifeline.texts (lifeline : Lifeline) : List String :=
  lifeline.name :: lifeline.states.labels.map Prod.snd

def Span.texts (span : Span) : List String :=
  [span.lifeline, span.label]

def Arrow.texts (arrow : Arrow) : List String :=
  arrow.origin.lifeline :: arrow.dest.lifeline :: arrow.label.toList

def Diagram.texts (diagram : Diagram) : List String :=
  diagram.title :: (diagram.lifelines.values.flatMap Lifeline.texts ++
    diagram.spans.flatMap Span.texts ++ diagram.arrows.flatMap Arrow.texts)

/-- An observation of a declared lifeline that is not too late. -/
structure Tick.WellBuilt (lifelines : Table Lifeline) (tick : Tick) : Prop where
  declared : tick.lifeline ∈ lifelines.keys
  time : tick.time ≤ 100000

structure Span.WellBuilt (span : Span) : Prop where
  lifeline : IsMarkup span.lifeline
  label : IsMarkup span.label

/-- An arrow with escaped texts; only a label can have a position. -/
structure Arrow.WellBuilt (arrow : Arrow) : Prop where
  origin : IsMarkup arrow.origin.lifeline
  dest : IsMarkup arrow.dest.lifeline
  label : ∀ label ∈ arrow.label, IsMarkup label
  unlabelled : arrow.label = none → arrow.labelPosition = 0

/-- A diagram on which the stages after reading can rely. -/
structure Diagram.WellBuilt (diagram : Diagram) : Prop where
  title : IsMarkup diagram.title
  distinct : diagram.lifelines.keys.Nodup
  lifelines : ∀ entry ∈ diagram.lifelines.entries, entry.2.WellBuilt entry.1
  ticks : ∀ tick ∈ diagram.ticks, tick.WellBuilt diagram.lifelines
  spans : ∀ span ∈ diagram.spans, span.WellBuilt
  arrows : ∀ arrow ∈ diagram.arrows, arrow.WellBuilt

theorem Lifeline.WellBuilt.isMarkup_of_mem_texts {key text : String} {lifeline : Lifeline}
    (wellBuilt : lifeline.WellBuilt key) (membership : text ∈ lifeline.texts) : IsMarkup text := by
  rcases List.mem_cons.mp membership with rfl | labelled
  · exact wellBuilt.name
  · obtain ⟨entry, found, rfl⟩ := List.mem_map.mp labelled
    exact wellBuilt.labels entry.2 (Catalog.mem_slots_of_mem_labels found)

theorem Span.WellBuilt.isMarkup_of_mem_texts {text : String} {span : Span}
    (wellBuilt : span.WellBuilt) (membership : text ∈ span.texts) : IsMarkup text := by
  simp only [texts, List.mem_cons, List.not_mem_nil, or_false] at membership
  rcases membership with rfl | rfl
  · exact wellBuilt.lifeline
  · exact wellBuilt.label

theorem Arrow.WellBuilt.isMarkup_of_mem_texts {text : String} {arrow : Arrow}
    (wellBuilt : arrow.WellBuilt) (membership : text ∈ arrow.texts) : IsMarkup text := by
  simp only [texts, List.mem_cons, Option.mem_toList] at membership
  rcases membership with rfl | rfl | labelled
  · exact wellBuilt.origin
  · exact wellBuilt.dest
  · exact wellBuilt.label text labelled

theorem Lifeline.wellBuilt_declared {name : String} (escaped : IsMarkup name) :
    (declared name).WellBuilt name where
  named := rfl
  name := escaped
  labels := by simp [declared, Catalog.empty]
  size := by simp [declared, Catalog.empty, Catalog.size]
  compact := by simp [declared, Catalog.empty, Catalog.Compact]

theorem Lifeline.WellBuilt.relabel {key label : String} {lifeline : Lifeline} {index : Nat}
    (wellBuilt : lifeline.WellBuilt key) (escaped : IsMarkup label)
    (bounded : index ≤ Limit.stateIndex.greatest) :
    { lifeline with states := lifeline.states.insert index label : Lifeline }.WellBuilt key where
  named := wellBuilt.named
  name := wellBuilt.name
  labels := by
    intro other stored
    rcases Catalog.mem_slots_insert stored with rfl | earlier
    · exact escaped
    · exact wellBuilt.labels other earlier
  size := by
    have limit : index ≤ 4096 := bounded
    rw [Catalog.size_insert]
    exact Nat.max_le.mpr ⟨wellBuilt.size, Nat.succ_le_succ limit⟩
  compact := Catalog.compact_insert wellBuilt.compact index label

theorem Arrow.wellBuilt_of_fields {fields : ArrowFields} {arrow : Arrow}
    (read : Diagram.arrowOf fields = .ok arrow) : arrow.WellBuilt := by
  have ends : ∀ {fields : EndFields} {arrowEnd : ArrowEnd}, Diagram.endOf fields = .ok arrowEnd →
      IsMarkup arrowEnd.lifeline := by
    intro fields arrowEnd readEnd
    obtain ⟨tick, -, remaining⟩ := bind_eq_ok_iff.mp readEnd
    obtain ⟨slot, -, given⟩ := bind_eq_ok_iff.mp remaining
    cases given
    exact isMarkup_fieldMarkup fields.lifeline
  obtain ⟨position, readPosition, remaining⟩ := bind_eq_ok_iff.mp read
  obtain ⟨origin, readOrigin, remaining⟩ := bind_eq_ok_iff.mp remaining
  obtain ⟨dest, readDest, given⟩ := bind_eq_ok_iff.mp remaining
  cases given
  refine ⟨ends readOrigin, ends readDest, ?_, ?_⟩
  · intro label labelled
    obtain ⟨_, -, rfl⟩ := Option.map_eq_some_iff.mp labelled
    exact isMarkup_fieldMarkup _
  · intro unlabelled
    rw [Option.map_eq_none_iff.mp unlabelled] at readPosition
    exact (Except.ok.inj readPosition).symm

namespace Diagram

variable {diagram next : Diagram}

theorem isMarkup_defaultTitle : IsMarkup defaultTitle :=
  ⟨defaultTitle, by decide⟩

theorem wellBuilt_blank (config : Config) : (blank config).WellBuilt where
  title := isMarkup_defaultTitle
  distinct := List.nodup_nil
  lifelines := by simp [blank, Table.empty]
  ticks := by simp [blank]
  spans := by simp [blank]
  arrows := by simp [blank]

/-- Rebuilding one lifeline keeps the invariant if it keeps what holds of that lifeline. -/
theorem WellBuilt.modifyLifeline (wellBuilt : diagram.WellBuilt) {name : String}
    {f : Lifeline → Lifeline}
    (kept : ∀ lifeline, lifeline.WellBuilt name → (f lifeline).WellBuilt name) :
    (diagram.modifyLifeline name f).WellBuilt :=
  { wellBuilt with
    distinct := (diagram.modifyLifeline name f).lifelines.nodup
    lifelines := Table.forall_modify (fun key (lifeline : Lifeline) => lifeline.WellBuilt key)
      wellBuilt.lifelines kept
    ticks := fun tick membership =>
      { wellBuilt.ticks tick membership with
        declared := by
          have declared := (wellBuilt.ticks tick membership).declared
          rwa [Diagram.modifyLifeline, Table.keys_modify] } }

/-- Whatever a statement does, it keeps the invariant. -/
theorem WellBuilt.effect {statement : Statement} (effect : diagram.Effect statement next)
    (wellBuilt : diagram.WellBuilt) : next.WellBuilt := by
  cases effect with
  | keepConfig | keepLifeline => exact wellBuilt
  | configure => exact { wellBuilt with }
  | entitle text => exact { wellBuilt with title := isMarkup_fieldMarkup text }
  | declare name fresh =>
      have declared := Lifeline.wellBuilt_declared (isMarkup_fieldMarkup name)
      exact { wellBuilt with
        distinct := (diagram.lifelines.append _ _ fresh).nodup
        lifelines := Table.forall_append (fun key (lifeline : Lifeline) => lifeline.WellBuilt key)
          fresh wellBuilt.lifelines declared
        ticks := fun tick membership =>
          { wellBuilt.ticks tick membership with
            declared := Table.mem_keys_append fresh (wellBuilt.ticks tick membership).declared } }
  | restyle name _ style known =>
      exact wellBuilt.modifyLifeline fun lifeline built => { built with }
  | relabel name label _ index known _ bounded =>
      exact wellBuilt.modifyLifeline fun lifeline built =>
        built.relabel (isMarkup_fieldMarkup label) bounded
  | observe _ name _ time index lifeline declared _ bounded =>
      have last : Tick.WellBuilt diagram.lifelines ⟨time, fieldMarkup name, index⟩ :=
        ⟨mem_keys_of_declared declared, bounded⟩
      exact { wellBuilt with
        ticks := List.forall_mem_append.mpr
          ⟨wellBuilt.ticks, List.forall_mem_singleton.mpr last⟩ }
  | addSpan name _ _ label originTick destTick =>
      have last : Span.WellBuilt ⟨fieldMarkup name, originTick, destTick, fieldMarkup label⟩ :=
        ⟨isMarkup_fieldMarkup name, isMarkup_fieldMarkup label⟩
      exact { wellBuilt with
        spans := List.forall_mem_append.mpr
          ⟨wellBuilt.spans, List.forall_mem_singleton.mpr last⟩ }
  | addArrow fields arrow read =>
      have last := Arrow.wellBuilt_of_fields read
      exact { wellBuilt with
        arrows := List.forall_mem_append.mpr
          ⟨wellBuilt.arrows, List.forall_mem_singleton.mpr last⟩ }

theorem WellBuilt.isMarkup_of_mem_texts (wellBuilt : diagram.WellBuilt) {text : String}
    (membership : text ∈ diagram.texts) : IsMarkup text := by
  simp only [texts, List.mem_cons, List.mem_append, List.mem_flatMap] at membership
  rcases membership with rfl | ⟨⟨lifeline, stored, used⟩ | ⟨span, stored, used⟩⟩ |
    ⟨arrow, stored, used⟩
  · exact wellBuilt.title
  · obtain ⟨entry, found, rfl⟩ := List.mem_map.mp stored
    exact (wellBuilt.lifelines entry found).isMarkup_of_mem_texts used
  · exact (wellBuilt.spans span stored).isMarkup_of_mem_texts used
  · exact (wellBuilt.arrows arrow stored).isMarkup_of_mem_texts used

end Diagram

namespace Builder

open Source

theorem Outcome.wellBuilt {draft : Draft} {line : Line}
    {result : Except LineFault (Option StatementKind) × Draft} (outcome : Outcome draft line result)
    (before : draft.diagram.WellBuilt) : result.2.diagram.WellBuilt := by
  cases outcome with
  | refused => exact before
  | carriedOut _ _ _ effect => exact before.effect effect
  | passedOver => exact before

theorem wellBuilt_feed (mode : Mode) {draft : Draft} (lines : List Line)
    (wellBuilt : draft.diagram.WellBuilt) : (feed mode draft lines).diagram.WellBuilt := by
  induction lines generalizing draft with
  | nil => exact wellBuilt
  | cons line rest inductionHypothesis =>
      exact inductionHypothesis ((outcome_takeIn mode draft line).wellBuilt wellBuilt)

/-- Whatever lines are taken in, the diagram is well built and its texts can be written as they
are. -/
theorem every_draft_is_well_built (config : Config) (mode : Mode) (lines : List Line) :
    (feed mode (Draft.blank config) lines).diagram.WellBuilt ∧
    ∀ text ∈ (feed mode (Draft.blank config) lines).diagram.texts, Markup.Safe text.toList := by
  have blank : (Draft.blank config).diagram.WellBuilt := Diagram.wellBuilt_blank config
  have wellBuilt := wellBuilt_feed mode lines blank
  exact ⟨wellBuilt, fun text membership => (wellBuilt.isMarkup_of_mem_texts membership).safe⟩

end Builder

theorem Settings.wellBuilt_draft {settings : Settings} {text : String} {draft : Draft}
    (parsed : settings.draft text = .ok draft) : draft.diagram.WellBuilt := by
  have blank : (Draft.blank settings.site).diagram.WellBuilt := Diagram.wellBuilt_blank settings.site
  have fed := Builder.wellBuilt_feed settings.mode (Source.Script.ofText text).lines blank
  rwa [Builder.feed_of_steps parsed] at fed

end Chronogram
