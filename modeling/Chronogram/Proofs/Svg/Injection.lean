import Chronogram.Proofs.Diagram.Skeleton
import Chronogram.Proofs.Svg.Shapes

/-!
No text can inject markup.

The document of a diagram splits into lexemes and has the form of a document, whatever the texts of
the diagram are. And its row of tags follows from the skeleton of the diagram: a diagram with other
texts is drawn if and only if this one is, and with the same tags.
-/

namespace Chronogram

/-- Diagrams with the same skeleton are drawn with shapes of the same kinds. -/
theorem Diagram.kindsOf_eq_of_skeleton {first second : Diagram}
    (same : first.skeleton = second.skeleton) (wellBuilt : first.WellBuilt)
    (wellBuilt' : second.WellBuilt) :
    Drawing.kindsOf first.timeline = Drawing.kindsOf second.timeline := by
  have boxes : (first.lifelines.values.flatMap fun lifeline =>
        Drawing.boxKinds lifeline.style lifeline.states.labels.length first.timeline.tickCount
          (first.timeline.column lifeline.name)) =
      second.lifelines.values.flatMap fun lifeline =>
        Drawing.boxKinds lifeline.style lifeline.states.labels.length second.timeline.tickCount
          (second.timeline.column lifeline.name) := by
    refine flatMap_eq_of_forall₂ (alike_lifelines same wellBuilt wellBuilt') ?_
    intro lifeline other alike
    rw [alike.style, Catalog.length_labels, Catalog.length_labels, alike.slots,
      tickCount_eq_of_skeleton same, column_eq_of_skeleton same alike.place]
  have spans : (first.spans.flatMap fun _ => Drawing.spanKinds) =
      second.spans.flatMap fun _ => Drawing.spanKinds :=
    flatMap_eq_of_forall₂ (alike_spans same) fun _ _ _ => rfl
  have arrows : first.arrows.flatMap Drawing.arrowKinds =
      second.arrows.flatMap Drawing.arrowKinds := by
    refine flatMap_eq_of_forall₂ (alike_arrows same) fun arrow other alike => ?_
    rw [Drawing.arrowKinds, Drawing.arrowKinds, alike.2.2.1, alike.2.2.2]
  unfold Drawing.kindsOf
  rw [legendTicks_eq_of_skeleton same wellBuilt wellBuilt']
  simp only [Diagram.timeline] at boxes ⊢
  rw [boxes, spans, arrows]

namespace Settings

variable {settings : Settings} {text : String}

theorem of_svg {document : String} (rendered : settings.svg text = .ok document) :
    ∃ draft page, settings.draft text = .ok draft ∧
      Page.layout settings.metrics.measurer draft.diagram.timeline = .ok page ∧
      Svg.render settings.rootId page = document := by
  unfold svg page at rendered
  cases parsed : settings.draft text with
  | error fault => simp [parsed, Except.map] at rendered
  | ok draft =>
      cases laidOut : settings.layoutTimeline draft.diagram.timeline with
      | error fault => simp [parsed, laidOut, Except.map] at rendered
      | ok page =>
          simp only [parsed, laidOut, Except.map, Except.ok.injEq] at rendered
          exact ⟨draft, page, rfl, laidOut, rendered⟩

theorem svg_of_layout {draft : Draft} {page : Page Float} (parsed : settings.draft text = .ok draft)
    (laidOut : Page.layout settings.metrics.measurer draft.diagram.timeline = .ok page) :
    settings.svg text = .ok (Svg.render settings.rootId page) := by
  have placed : settings.layoutTimeline draft.diagram.timeline = .ok page := laidOut
  simp [svg, Settings.page, parsed, placed, Except.map, writePage]

/-- The id of the root element is missing, or it was made from some text. -/
def HasIdentifier (settings : Settings) : Prop :=
  settings.rootId = none ∨ ∃ raw, settings.rootId = some (Svg.Identifier.ofText raw)

theorem HasIdentifier.identified (identifier : settings.HasIdentifier) :
    Svg.Identified settings.rootId := by
  rcases identifier with missing | ⟨raw, given⟩
  · simp [Svg.Identified, missing]
  · rw [given]
    rintro id ⟨⟩
    exact Svg.Identifier.unreserved_ofText raw

/-- The page of a text that is read is written as a document whose tags follow from the skeleton of
its diagram. -/
theorem splits_of_layout {draft : Draft} {page : Page Float} (identifier : settings.HasIdentifier)
    (parsed : settings.draft text = .ok draft)
    (laidOut : Page.layout settings.metrics.measurer draft.diagram.timeline = .ok page) :
    ∃ lexemes, Svg.Splits (Svg.render settings.rootId page) lexemes ∧ Svg.IsDocument lexemes ∧
      Svg.tags lexemes = Svg.rootTagOf settings.rootId.isSome ::
        (Svg.headTags ++ (Drawing.kindsOf draft.diagram.timeline).flatMap Svg.kindTags ++
          [.closing "svg"]) := by
  have wellBuilt := settings.wellBuilt_draft parsed
  have shows := Page.shows_of_layout laidOut
  obtain ⟨lexemes, splits, isDocument, tags⟩ :=
    Svg.splits_render identifier.identified (Drawing.sound_ofPage wellBuilt shows)
  refine ⟨lexemes, splits, isDocument, ?_⟩
  rw [tags, Svg.tags_document, Drawing.kinds_ofPage (settings.named_draft parsed) shows]

theorem exists_layout_of_skeleton {draft draft' : Draft} {settings' : Settings} {text' : String}
    {page : Page Float} (parsed : settings.draft text = .ok draft)
    (parsed' : settings'.draft text' = .ok draft')
    (same : draft.diagram.skeleton = draft'.diagram.skeleton)
    (laidOut : Page.layout settings.metrics.measurer draft.diagram.timeline = .ok page) :
    ∃ page', Page.layout settings'.metrics.measurer draft'.diagram.timeline = .ok page' := by
  have named : ∀ entry ∈ draft.diagram.timeline.lifelines.entries, entry.2.name = entry.1 :=
    settings.named_draft parsed
  have named' : ∀ entry ∈ draft'.diagram.timeline.lifelines.entries, entry.2.name = entry.1 :=
    settings'.named_draft parsed'
  have resolves : draft.diagram.timeline.Resolves :=
    (Page.exists_layout_iff named).mp ⟨page, laidOut⟩
  refine (Page.exists_layout_iff named').mpr ?_
  exact Diagram.resolves_of_skeleton same (settings.wellBuilt_draft parsed)
    (settings'.wellBuilt_draft parsed') resolves

end Settings

/-- No text can inject markup. Whatever text is compiled, under whatever settings, the document
splits into known tags with quoted values and character data without open markup; its elements are
nested inside one root. And a text whose diagram has the same skeleton is compiled as well, to a
document with the same tags in the same order. -/
theorem no_text_injects_markup (settings : Settings) (identifier : settings.HasIdentifier)
    (text document : String) (rendered : settings.svg text = .ok document) :
    (∃ lexemes, Svg.Splits document lexemes ∧ Svg.IsDocument lexemes) ∧
    (∀ (settings' : Settings) (text' : String) (draft draft' : Draft),
      settings'.HasIdentifier → settings'.rootId.isSome = settings.rootId.isSome →
      settings.draft text = .ok draft → settings'.draft text' = .ok draft' →
      draft.diagram.skeleton = draft'.diagram.skeleton →
      ∃ document', settings'.svg text' = .ok document' ∧
        ∀ lexemes lexemes', Svg.Splits document lexemes → Svg.Splits document' lexemes' →
          Svg.tags lexemes = Svg.tags lexemes') := by
  obtain ⟨draft, page, parsed, laidOut, rfl⟩ := Settings.of_svg rendered
  obtain ⟨lexemes, splits, isDocument, tags⟩ := Settings.splits_of_layout identifier parsed laidOut
  refine ⟨⟨lexemes, splits, isDocument⟩, ?_⟩
  intro settings' text' read draft' identifier' identified parsedAgain parsed' same
  obtain rfl : draft = read := Except.ok.inj (parsed.symm.trans parsedAgain)
  obtain ⟨page', laidOut'⟩ := Settings.exists_layout_of_skeleton parsed parsed' same laidOut
  obtain ⟨lexemes', splits', -, tags'⟩ := Settings.splits_of_layout identifier' parsed' laidOut'
  refine ⟨_, Settings.svg_of_layout parsed' laidOut', ?_⟩
  intro found found' splitsFound splitsFound'
  -- A document has only one split, so its tags are those of the kinds of its shapes.
  have kinds := Diagram.kindsOf_eq_of_skeleton same (settings.wellBuilt_draft parsed)
    (settings'.wellBuilt_draft parsed')
  rw [splitsFound.unique splits, splitsFound'.unique splits', tags, tags', identified, kinds]

theorem Settings.exists_svg_source {settings : Settings} {raw : Diagram}
    (printable : raw.Printable) (resolves : (raw.markup settings.site).timeline.Resolves) :
    settings.draft raw.source = .ok ⟨raw.markup settings.site, []⟩ ∧
      ∃ document, settings.svg raw.source = .ok document := by
  have parsed : settings.draft raw.source = .ok ⟨raw.markup settings.site, []⟩ :=
    settings.draft_textOf (Diagram.writable_statements printable)
      (Diagram.foldlM_statements printable settings.site)
  have named : ∀ entry ∈ (raw.markup settings.site).timeline.lifelines.entries,
      entry.2.name = entry.1 := settings.named_draft parsed
  have laidOut : ∃ page, Page.layout settings.metrics.measurer (raw.markup settings.site).timeline =
      .ok page := (Page.exists_layout_iff named).mpr resolves
  obtain ⟨page, laidOut⟩ := laidOut
  exact ⟨parsed, _, svg_of_layout parsed laidOut⟩

/-- A diagram with a state, a span and an arrow, in any words. -/
def worded (title name label note remark : String) : Diagram where
  title := title
  config := Config.standard
  lifelines := ⟨[(name, ⟨name, .slice, ⟨[some label]⟩⟩)], by simp⟩
  ticks := [⟨1, name, 0⟩]
  spans := [⟨name, 0, 1, note⟩]
  arrows := [⟨⟨name, 0, 0⟩, ⟨name, 1, 0⟩, some remark, 50, .right, .dashed⟩]

/-- A diagram that would like to draw more than it is given. -/
def hostileDiagram : Diagram :=
  worded "</title><script>" "\"/><rect x=\"0" "]]>" "<!-- & -->" "&lt;&bogus;<?xml"

theorem hostileDiagram_draws_alike :
    ∃ document, Settings.standard.HasIdentifier ∧
      Settings.standard.svg hostileDiagram.source = .ok document ∧
      (∃ lexemes, Svg.Splits document lexemes ∧ Svg.IsDocument lexemes) ∧
      ∃ document',
        Settings.standard.svg (worded "Tea" "kettle" "on" "wait" "pour").source = .ok document' ∧
        ∀ lexemes lexemes', Svg.Splits document lexemes → Svg.Splits document' lexemes' →
          Svg.tags lexemes = Svg.tags lexemes' := by
  have identifier : Settings.standard.HasIdentifier := .inl rfl
  have printable : hostileDiagram.Printable := by decide
  have printable' : (worded "Tea" "kettle" "on" "wait" "pour").Printable := by decide
  obtain ⟨parsed, document, rendered⟩ :=
    Settings.standard.exists_svg_source printable (Timeline.faults_eq_nil_iff.mp (by decide +kernel))
  obtain ⟨parsed', -⟩ :=
    Settings.standard.exists_svg_source printable'
      (Timeline.faults_eq_nil_iff.mp (by decide +kernel))
  obtain ⟨isDocument, alike⟩ :=
    no_text_injects_markup Settings.standard identifier _ document rendered
  refine ⟨document, identifier, rendered, isDocument, ?_⟩
  exact alike Settings.standard _ _ _ identifier rfl parsed parsed' (by decide +kernel)

end Chronogram
