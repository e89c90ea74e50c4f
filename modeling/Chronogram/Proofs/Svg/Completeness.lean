import Chronogram.Proofs.Diagram.InLine
import Chronogram.Proofs.Svg.Injection

/-!
Every shape is drawn, and drawn once.

The lines of a document between its header and its end are those of its shapes, one for each. The
shapes show the marks of the diagram, so they can be counted out from it: nothing is dropped and
nothing is repeated, whatever the styles of the lifelines are.
-/

namespace Chronogram

open Text

namespace Svg

def drawnLines (root : Option String) (page : Page Float) : List String :=
  (Drawing.ofPage page).map fun shape => writeTokens page.scale (shapeTokens (markerId root) shape)

def headerText (root : Option String) (page : Page Float) : String :=
  writeTokens page.scale (header root ⟨page.width, page.height⟩ page.title.frame)

theorem toList_writeTokens_append (scale : Float) (first second : List Token) :
    (writeTokens scale (first ++ second)).toList =
      (writeTokens scale first).toList ++ (writeTokens scale second).toList := by
  simp only [toList_writeTokens, List.flatMap_append]

theorem toList_writeTokens_flatMap {α : Type} (scale : Float) (tokens : α → List Token)
    (items : List α) :
    (writeTokens scale (items.flatMap tokens)).toList =
      items.flatMap fun item => (writeTokens scale (tokens item)).toList := by
  simp only [toList_writeTokens, List.flatMap_assoc]

theorem toList_writeTokens_newline (scale : Float) :
    (writeTokens scale [.newline]).toList = ['\n'] := by
  rw [toList_writeTokens, List.flatMap_singleton, lexemes_newline]
  rfl

theorem toList_writeTokens_footer (scale : Float) :
    (writeTokens scale footer).toList = "</svg>\n".toList := by
  have split : footer = [.endTag "svg"] ++ [.newline] := rfl
  rw [split, toList_writeTokens_append, toList_writeTokens_newline, toList_writeTokens]
  rfl

/-- A document is its header, the lines of its shapes, and the end of its root element. -/
theorem toList_render (root : Option String) (page : Page Float) :
    (render root page).toList =
      (headerText root page).toList ++
        (drawnLines root page).flatMap (fun line => line.toList ++ ['\n']) ++ "</svg>\n".toList := by
  simp only [render, document, toList_writeTokens_append, toList_writeTokens_flatMap,
    toList_writeTokens_newline, toList_writeTokens_footer, drawnLines, List.flatMap_map, headerText]

/-! ### Lines -/

/-- A piece whose text has no line feed. -/
def Piece.InLine : Piece → Prop
  | .literal text => OneLine text
  | .scaled _ => True

theorem Piece.InLine.feedless {piece : Piece} (inLine : piece.InLine) (scale : Float) :
    '\n' ∉ piece.chars scale := by
  cases piece with
  | literal text => exact inLine
  | scaled value =>
      rw [Piece.chars, Piece.write, String.toList_ofList]
      intro fed
      have number := isNumberChar_of_mem_numberText fed
      exact absurd number (by unfold IsNumberChar; decide)

theorem oneLine_writeTokens {tokens : List Token}
    (inLine : ∀ piece ∈ tokenPieces tokens, piece.InLine) (scale : Float) :
    OneLine (writeTokens scale tokens) := by
  rw [OneLine, writeTokens_eq, toList_writePieces]
  intro fed
  obtain ⟨piece, stands, written⟩ := List.mem_flatMap.mp fed
  exact (inLine piece stands).feedless scale written

theorem inLine_pointListPieces (points : List (Point Float)) :
    ∀ piece ∈ pointListPieces points, piece.InLine := by
  intro piece stands
  cases piece with
  | scaled value => trivial
  | literal text =>
      have oneLine : OneLine text := by
        rcases eq_of_literal_mem_points stands with rfl | rfl <;> decide
      exact oneLine

theorem inLine_pieces {item : Attribute} (name : OneLine item.name)
    (value : ∀ piece ∈ item.value, piece.InLine) : ∀ piece ∈ item.pieces, piece.InLine := by
  have opened : OneLine (" " ++ item.name ++ "=\"") :=
    .append (.append (by decide) name) (by decide)
  refine List.forall_mem_append.mpr ⟨List.forall_mem_cons.mpr ⟨opened, value⟩, ?_⟩
  exact List.forall_mem_singleton.mpr (by decide : OneLine "\"")

theorem Attribute.Drawn.inLine {marker : String} {fill : Option String} {item : Attribute}
    (drawn : item.Drawn marker fill) (oneLine : OneLine marker)
    (colour : ∀ value ∈ fill, OneLine value) : ∀ piece ∈ item.pieces, piece.InLine := by
  have names : ∀ name ∈ shapeNames, OneLine name := by decide
  have words : ∀ value ∈ shapeWords, OneLine value := by decide
  have referring : ∀ name ∈ referenceNames, OneLine name := by decide
  have reference : OneLine (markerReference marker) :=
    .append (.append (by decide) oneLine) (by decide)
  have single {piece : Piece} (inLine : piece.InLine) : ∀ other ∈ [piece], other.InLine :=
    List.forall_mem_singleton.mpr inLine
  cases drawn with
  | number known value => exact inLine_pieces (names _ known) (single trivial)
  | points points => exact inLine_pieces (names "points" (by decide)) (inLine_pointListPieces points)
  | word known plain => exact inLine_pieces (names _ known) (single (words _ plain))
  | colour used => exact inLine_pieces (names "fill" (by decide)) (single (colour _ used))
  | reference known => exact inLine_pieces (referring _ known) (single reference)

theorem inLine_tag {name ending : String} {attributes : List Attribute} (named : OneLine name)
    (inLine : ∀ item ∈ attributes, ∀ piece ∈ item.pieces, piece.InLine) (ended : OneLine ending) :
    ∀ piece ∈ .literal ("<" ++ name) :: attributes.flatMap Attribute.pieces ++ [.literal ending],
      piece.InLine := by
  have opened : OneLine ("<" ++ name) := .append (by decide) named
  refine List.forall_mem_append.mpr ⟨List.forall_mem_cons.mpr ⟨opened, ?_⟩, ?_⟩
  · intro piece stands
    obtain ⟨item, among, here⟩ := List.mem_flatMap.mp stands
    exact inLine item among piece here
  · exact List.forall_mem_singleton.mpr ended

theorem oneLine_shapeTokens {marker : String} (oneLine : OneLine marker) {shape : Shape Float}
    (colour : ∀ value ∈ shape.mark.fill?, OneLine value)
    (text : ∀ content ∈ shape.mark.content?, OneLine content) (scale : Float) :
    OneLine (writeTokens scale (shapeTokens marker shape)) := by
  have element := element_shapeTokens marker shape
  generalize shapeTokens marker shape = tokens at element
  apply oneLine_writeTokens
  cases element with
  | empty known drawn =>
      have names : ∀ name ∈ elementNames, OneLine name := by decide
      rw [tokenPieces, List.flatMap_singleton]
      exact inLine_tag (names _ known)
        (fun item stands => (drawn item stands).inLine oneLine colour) (by decide)
  | text shown drawn =>
      simp only [tokenPieces, List.flatMap_cons, List.flatMap_nil, List.forall_mem_append]
      refine ⟨?_, ?_, ?_, List.forall_mem_nil _⟩
      · exact inLine_tag (by decide)
          (fun item stands => (drawn item stands).inLine oneLine colour) (by decide)
      · exact List.forall_mem_singleton.mpr (text _ shown)
      · exact List.forall_mem_singleton.mpr (by decide : OneLine ("</" ++ "text" ++ ">"))

theorem oneLine_markerId {root : Option String} (oneLine : ∀ id ∈ root, OneLine id) :
    OneLine (markerId root) := by
  cases root with
  | none => decide
  | some id => exact .append (oneLine id rfl) (by decide)

end Svg

theorem Diagram.InLine.oneLine_of_mem_texts {diagram : Diagram} (inLine : diagram.InLine)
    {text : String} (among : text ∈ diagram.texts) : OneLine text := by
  simp only [Diagram.texts, List.mem_cons, List.mem_append, List.mem_flatMap] at among
  rcases among with rfl | ⟨⟨lifeline, stored, used⟩ | ⟨span, stored, used⟩⟩ | ⟨arrow, stored, used⟩
  · exact inLine.title
  · obtain ⟨entry, found, rfl⟩ := List.mem_map.mp stored
    exact inLine.lifelines entry found text used
  · exact inLine.spans span stored text used
  · exact inLine.arrows arrow stored text used

theorem Svg.oneLine_of_mem_drawnLines {diagram : Diagram} {page : Page Float}
    {root : Option String} (oneLine : ∀ id ∈ root, OneLine id) (inLine : diagram.InLine)
    (named : diagram.Named) (shows : Page.Shows diagram.timeline page) :
    ∀ line ∈ drawnLines root page, OneLine line := by
  intro line membership
  obtain ⟨shape, drawn, rfl⟩ := List.mem_map.mp membership
  have known := Drawing.known_ofPage named shows shape drawn
  have colours : ∀ colour ∈ Drawing.busFill :: palette, OneLine colour := by decide
  refine oneLine_shapeTokens (oneLine_markerId oneLine) (fun colour used => ?_) ?_ _
  · exact colours colour (known.fill colour used)
  · intro content shown
    rcases known.content content shown with own | ⟨tick, rfl⟩
    · exact inLine.oneLine_of_mem_texts own
    · exact oneLine_toString tick

/-! ### Counting texts -/

def Mark.isText {α : Type} (mark : Mark α) : Bool :=
  mark.content?.isSome

/-- The number of texts in the drawing of a diagram: its title, and one for each lifeline, each label
of a state of a lifeline that is not simplified, each span, each arrow with a label, and each entry of
the legend. -/
def Timeline.textCount (timeline : Timeline) : Nat :=
  1 + timeline.lifelines.values.length +
    (timeline.lifelines.values.flatMap Lifeline.shownLabels).length +
    timeline.spans.length + (timeline.arrows.filter fun arrow => arrow.label.isSome).length +
    timeline.legendTicks.length

namespace Timeline

variable {α : Type} [Scalar α]

omit [Scalar α] in
theorem countP_textless {marks : List (Mark α)} (textless : ∀ mark ∈ marks, mark.content? = none) :
    marks.countP Mark.isText = 0 := by
  refine List.countP_eq_zero.mpr fun mark membership => ?_
  simp [Mark.isText, textless mark membership]

omit [Scalar α] in
theorem countP_labelMarks (labels : List String) :
    (labels.flatMap labelMarks : List (Mark α)).countP Mark.isText = labels.length := by
  induction labels with
  | nil => rfl
  | cons label rest inductionHypothesis =>
      rw [List.flatMap_cons, List.countP_append, inductionHypothesis, List.length_cons,
        Nat.add_comm]
      rfl

/-- A lifeline has a text for its name and one for each label beside its box. -/
theorem countP_blockMarks (timeline : Timeline) (lifeline : Lifeline) :
    (timeline.blockMarks lifeline : List (Mark α)).countP Mark.isText =
      1 + lifeline.shownLabels.length := by
  have slices : (if lifeline.style = .slice then timeline.sliceMarks lifeline.name else [] :
      List (Mark α)).countP Mark.isText = 0 := by
    split
    · exact countP_textless (List.forall_mem_append.mpr
        ⟨List.forall_mem_map.mpr fun _ _ => rfl, List.forall_mem_map.mpr fun _ _ => rfl⟩)
    · rfl
  have frame : (timeline.frameMarks lifeline.name : List (Mark α)).countP Mark.isText = 1 := by
    have plain : (List.replicate timeline.tickCount (.line false) :
        List (Mark α)).countP Mark.isText = 0 :=
      countP_textless fun mark membership => by rw [List.eq_of_mem_replicate membership]; rfl
    rw [frameMarks, List.countP_cons, List.countP_cons, plain]
    rfl
  have track : (timeline.trackMarks lifeline.style : List (Mark α)).countP Mark.isText = 0 := by
    unfold trackMarks
    split
    · rfl
    · cases lifeline.style <;> rfl
  rw [blockMarks]
  simp only [List.countP_append, slices, frame, track, countP_labelMarks]
  omega

theorem countP_blocks (timeline : Timeline) (lifelines : List Lifeline) :
    (lifelines.flatMap timeline.blockMarks : List (Mark α)).countP Mark.isText =
      lifelines.length + (lifelines.flatMap Lifeline.shownLabels).length := by
  induction lifelines with
  | nil => rfl
  | cons lifeline rest inductionHypothesis =>
      rw [List.flatMap_cons, List.countP_append, countP_blockMarks, inductionHypothesis,
        List.flatMap_cons, List.length_append, List.length_cons]
      omega

omit [Scalar α] in
theorem countP_spans (spans : List Span) :
    (spans.flatMap spanMarks : List (Mark α)).countP Mark.isText = spans.length := by
  induction spans with
  | nil => rfl
  | cons span rest inductionHypothesis =>
      rw [List.flatMap_cons, List.countP_append, inductionHypothesis, List.length_cons,
        Nat.add_comm]
      rfl

omit [Scalar α] in
theorem countP_arrows (arrows : List Arrow) :
    (arrows.flatMap arrowMarks : List (Mark α)).countP Mark.isText =
      (arrows.filter fun arrow => arrow.label.isSome).length := by
  induction arrows with
  | nil => rfl
  | cons arrow rest inductionHypothesis =>
      have first : (arrowMarks arrow : List (Mark α)).countP Mark.isText =
          if arrow.label.isSome then 1 else 0 := by
        rw [arrowMarks]
        cases arrow.label <;> rfl
      rw [List.flatMap_cons, List.countP_append, inductionHypothesis, first, List.filter_cons]
      split
      · rw [List.length_cons, Nat.add_comm]
      · rw [Nat.zero_add]

/-- The marks of a diagram have as many texts as its parts have. -/
theorem countP_marks (timeline : Timeline) :
    (timeline.marks : List (Mark α)).countP Mark.isText = timeline.textCount := by
  have legend : (timeline.legendTicks.map legendMark : List (Mark α)).countP Mark.isText =
      timeline.legendTicks.length := by
    rw [List.countP_map]
    exact List.countP_eq_length.mpr fun _ _ => rfl
  have title : (Mark.text .title timeline.title none : Mark α).isText = true := rfl
  rw [marks, textCount]
  simp only [List.countP_append, List.countP_cons, countP_blocks, countP_spans, countP_arrows,
    legend, title, if_true]
  omega

end Timeline

namespace Svg

def Tag.opensText : Tag → Bool
  | .opening name _ => name = "text"
  | .empty _ _ | .closing _ => false

theorem countP_kindTags (shape : Shape Float) :
    (kindTags shape.kind).countP Tag.opensText = if shape.mark.isText then 1 else 0 := by
  cases shape with
  | line _ _ dashed => cases dashed <;> rfl
  | rect _ _ fill => cases fill <;> rfl
  | polygon | polyline | doubleArrow => rfl
  | text _ _ _ anchor => cases anchor <;> rfl
  | arrow _ _ style => cases style <;> rfl

theorem countP_flatMap_kindTags (shapes : List (Shape Float)) :
    ((shapes.map Shape.kind).flatMap kindTags).countP Tag.opensText =
      (shapes.map Shape.mark).countP Mark.isText := by
  induction shapes with
  | nil => rfl
  | cons shape rest inductionHypothesis =>
      rw [List.map_cons, List.flatMap_cons, List.countP_append, inductionHypothesis,
        countP_kindTags, List.map_cons, List.countP_cons, Nat.add_comm]

/-- A document has one text element for each text of its drawing. -/
theorem countP_document (root : Option String) (page : Page Float) :
    ((document root page).filterMap Token.tag?).countP Tag.opensText =
      ((Drawing.ofPage page).map Shape.mark).countP Mark.isText := by
  have head : headTags.countP Tag.opensText = 0 := by decide
  have last : [Tag.closing "svg"].countP Tag.opensText = 0 := rfl
  have opening : (rootTagOf root.isSome).opensText = false := rfl
  rw [tags_document, ← countP_flatMap_kindTags]
  simp only [List.countP_cons, List.countP_append, head, last, opening, Bool.false_eq_true, if_false]
  omega

end Svg

/-- Drawing neither drops nor repeats anything. A text that is compiled has a page whose shapes show
the marks of its diagram, one after the other. The document has a header and then one line for each of
these shapes, and as many text elements as the parts of the diagram call for. -/
theorem drawing_is_complete (settings : Settings) (text document : String) (draft : Draft)
    (parsed : settings.draft text = .ok draft) (rendered : settings.svg text = .ok document) :
    ∃ page, Page.layout settings.metrics.measurer draft.diagram.timeline = .ok page ∧
      (Drawing.ofPage page).map Shape.mark = draft.diagram.timeline.marks ∧
      document.toList = (Svg.headerText settings.rootId page).toList ++
        (Svg.drawnLines settings.rootId page).flatMap (fun line => line.toList ++ ['\n']) ++
          "</svg>\n".toList ∧
      ((∀ id ∈ settings.rootId, OneLine id) →
        ∀ line ∈ Svg.drawnLines settings.rootId page, OneLine line) ∧
      (Svg.Identified settings.rootId → ∃ lexemes, Svg.Splits document lexemes ∧
        (Svg.tags lexemes).countP Svg.Tag.opensText = draft.diagram.timeline.textCount) := by
  obtain ⟨read, page, parsedAgain, laidOut, rfl⟩ := Settings.of_svg rendered
  obtain rfl : draft = read := Except.ok.inj (parsed.symm.trans parsedAgain)
  have named : draft.diagram.Named := settings.named_draft parsed
  have shows := Page.shows_of_layout laidOut
  have marks : (Drawing.ofPage page).map Shape.mark = draft.diagram.timeline.marks :=
    Drawing.marks_ofPage named shows
  refine ⟨page, laidOut, marks, Svg.toList_render settings.rootId page, ?_, ?_⟩
  · intro oneLine
    exact Svg.oneLine_of_mem_drawnLines oneLine (settings.inLine_draft parsed) named shows
  · intro identified
    obtain ⟨lexemes, splits, -, tags⟩ :=
      Svg.splits_render identified (Drawing.sound_ofPage (settings.wellBuilt_draft parsed) shows)
    refine ⟨lexemes, splits, ?_⟩
    rw [tags, Svg.countP_document, marks, Timeline.countP_marks]

/-- A lifeline of each style, one of which is last seen at the last tick. -/
def mixedDiagram : Diagram where
  title := "Ferry"
  config := Config.standard
  lifelines :=
    ⟨[("quay", ⟨"quay", .normal, ⟨[some "empty", some "full"]⟩⟩),
      ("ferry", ⟨"ferry", .slice, ⟨[some "away", none, some "here"]⟩⟩),
      ("crew", ⟨"crew", .simplified, ⟨[some "off", some "on"]⟩⟩)], by decide⟩
  ticks := [⟨0, "quay", 1⟩, ⟨1, "ferry", 2⟩, ⟨1, "crew", 1⟩, ⟨3, "ferry", 0⟩, ⟨3, "quay", 0⟩]
  spans := [⟨"ferry", 1, 3, "boarding"⟩]
  arrows := [⟨⟨"quay", 1, 0⟩, ⟨"ferry", 1, 0⟩, some "queue", 50, .right, .dashed⟩,
    ⟨⟨"ferry", 3, 0⟩, ⟨"quay", 3, 0⟩, none, 0, .left, .solid⟩]

theorem mixedDiagram_is_complete :
    ∃ draft document page, Settings.standard.draft mixedDiagram.source = .ok draft ∧
      Settings.standard.svg mixedDiagram.source = .ok document ∧
      Page.layout Settings.standard.metrics.measurer draft.diagram.timeline = .ok page ∧
      (Drawing.ofPage page).map Shape.mark = draft.diagram.timeline.marks ∧
      (∀ line ∈ Svg.drawnLines none page, OneLine line) ∧
      ∃ lexemes, Svg.Splits document lexemes ∧
        (Svg.tags lexemes).countP Svg.Tag.opensText = 14 := by
  have printable : mixedDiagram.Printable := by decide
  obtain ⟨parsed, document, rendered⟩ :=
    Settings.standard.exists_svg_source printable (Timeline.faults_eq_nil_iff.mp (by decide +kernel))
  obtain ⟨page, laidOut, marks, -, oneLine, texts⟩ :=
    drawing_is_complete Settings.standard _ document _ parsed rendered
  have count : (mixedDiagram.markup Settings.standard.site).timeline.textCount = 14 := by
    decide +kernel
  refine ⟨_, document, page, parsed, rendered, laidOut, marks,
    oneLine (by simp [Settings.standard]), ?_⟩
  rw [← count]
  exact texts (by simp [Svg.Identified, Settings.standard])

end Chronogram
