import Chronogram.Report

/-!
Reports are read back.

For every kind of report there is a reader of JSON values that expects the names of the format in
their order. The report of a diagram, of a time line or of a page determines it: no field is missing
and nothing is added.
-/

namespace Chronogram

/-! ### Lists, tables and missing values -/

namespace Json

variable {α : Type}

def list? (decode : Json → Option α) : Json → Option (List α)
  | .list items => items.mapM decode
  | _ => none

def option? (decode : Json → Option α) : Json → Option (Option α)
  | .null => some none
  | value => (decode value).map some

def string? : Json → Option String
  | .string text => some text
  | _ => none

def entries? (decode : Json → Option α) : List (String × Json) → Option (List (String × α))
  | [] => some []
  | (key, value) :: rest => do
      return (key, ← decode value) :: (← entries? decode rest)

/-- Read an object whose keys are data. No key may stand there twice. -/
def table? (decode : Json → Option α) : Json → Option (Table α)
  | .table members => do
      let entries ← entries? decode members
      if distinct : (entries.map Prod.fst).Nodup then return ⟨entries, distinct⟩
      else none
  | _ => none

theorem read_bind {β : Type} {first : Option α} {next : α → Option β} {x : α} {y : β}
    (read : first = some x) (others : next x = some y) : (first >>= next) = some y :=
  Option.bind_eq_some_iff.mpr ⟨x, read, others⟩

variable {encode : α → Json} {decode : Json → Option α}
  (inverse : ∀ x, decode (encode x) = some x)

include inverse

theorem list?_map (items : List α) : list? decode (.list (items.map encode)) = some items := by
  rw [list?]
  induction items with
  | nil => rfl
  | cons item rest inductionHypothesis =>
      rw [List.map_cons, List.mapM_cons, inverse, inductionHypothesis]
      rfl

theorem option?_option (proper : ∀ x, encode x ≠ .null) (value : Option α) :
    option? decode (Json.option encode value) = some value := by
  cases value with
  | none => rfl
  | some x =>
      rw [option, option?, inverse]
      · rfl
      · exact proper x

theorem table?_report (table : Table α) : table? decode (table.report encode) = some table := by
  obtain ⟨entries, distinct⟩ := table
  have read : entries? decode (entries.map fun entry => (entry.1, encode entry.2)) =
      some entries := by
    clear distinct
    induction entries with
    | nil => rfl
    | cons entry rest inductionHypothesis =>
        rw [List.map_cons, entries?, inverse, inductionHypothesis]
        rfl
  apply read_bind read
  exact dif_pos distinct

omit inverse

theorem string?_string (text : String) : string? (.string text) = some text :=
  rfl

theorem option?_string (label : Option String) :
    option? string? (Json.option .string label) = some label :=
  option?_option string?_string (fun _ same => Json.noConfusion same) label

end Json

open Json

/-! ### Diagrams -/

def LegendMode.ofReport? : Json → Option LegendMode
  | .string "byFrequency" => some .byFrequency
  | .string "onlySignificant" => some .onlySignificant
  | _ => none

def Config.ofReport? : Json → Option Config
  | .record [("tickWidth", .number tickWidth), ("tickFreq", .whole (.ofNat frequency)),
      ("legendMode", mode), ("scale", .number scale)] => do
      return ⟨tickWidth, frequency, ← LegendMode.ofReport? mode, scale⟩
  | _ => none

def Catalog.ofReport? (json : Json) : Option Catalog := do
  return ⟨← list? (option? string?) json⟩

def LifelineStyle.ofReport? : Json → Option LifelineStyle
  | .string "normal" => some .normal
  | .string "simplified" => some .simplified
  | .string "slice" => some .slice
  | _ => none

def Lifeline.ofReport? : Json → Option Lifeline
  | .record [("name", .string name), ("style", style), ("states", states)] => do
      return ⟨name, ← LifelineStyle.ofReport? style, ← Catalog.ofReport? states⟩
  | _ => none

def Tick.ofReport? : Json → Option Tick
  | .record [("time", .whole (.ofNat time)), ("lifeline", .string lifeline),
      ("stateIdx", .whole (.ofNat state))] => some ⟨time, lifeline, state⟩
  | _ => none

def Span.ofReport? : Json → Option Span
  | .record [("lifeline", .string lifeline), ("originTick", .whole (.ofNat originTick)),
      ("destTick", .whole (.ofNat destTick)), ("label", .string label)] =>
      some ⟨lifeline, originTick, destTick, label⟩
  | _ => none

def LabelSide.ofReport? : Json → Option LabelSide
  | .string "L" => some .left
  | .string "R" => some .right
  | _ => none

def ArrowStyle.ofReport? : Json → Option ArrowStyle
  | .string "solid" => some .solid
  | .string "dashed" => some .dashed
  | _ => none

def Arrow.ofReport? : Json → Option Arrow
  | .record [("originLifeline", .string originLifeline), ("originTick", .whole (.ofNat originTick)),
      ("originIdx", .whole (.ofNat originSlot)), ("destLifeline", .string destLifeline),
      ("destTick", .whole (.ofNat destTick)), ("destIdx", .whole (.ofNat destSlot)),
      ("label", label), ("labelPos", .whole position), ("labelSide", side), ("style", style)] => do
      return ⟨⟨originLifeline, originTick, originSlot⟩, ⟨destLifeline, destTick, destSlot⟩,
        ← option? string? label, position, ← LabelSide.ofReport? side,
        ← ArrowStyle.ofReport? style⟩
  | _ => none

def Diagram.ofReport? : Json → Option Diagram
  | .record [("title", .string title), ("config", config), ("lifelines", lifelines),
      ("ticks", ticks), ("spans", spans), ("arrows", arrows)] => do
      return ⟨title, ← Config.ofReport? config, ← table? Lifeline.ofReport? lifelines,
        ← list? Tick.ofReport? ticks, ← list? Span.ofReport? spans, ← list? Arrow.ofReport? arrows⟩
  | _ => none

def Warning.ofReport? : Json → Option Warning
  | .record [("line", .whole (.ofNat line)), ("text", .string text)] => some ⟨line, text⟩
  | _ => none

def Draft.ofReport? : Json → Option Draft
  | .record [("diagram", diagram), ("warnings", warnings)] => do
      return ⟨← Diagram.ofReport? diagram, ← list? Warning.ofReport? warnings⟩
  | _ => none

theorem LegendMode.ofReport?_report (mode : LegendMode) : ofReport? mode.report = some mode := by
  cases mode <;> rfl

theorem Config.ofReport?_report (config : Config) : ofReport? config.report = some config := by
  apply read_bind (LegendMode.ofReport?_report config.legendMode)
  rfl

theorem Catalog.ofReport?_report (catalog : Catalog) :
    ofReport? catalog.report = some catalog := by
  apply read_bind (list?_map option?_string catalog.slots)
  rfl

theorem LifelineStyle.ofReport?_report (style : LifelineStyle) :
    ofReport? (.string style.name) = some style := by
  cases style <;> rfl

theorem Lifeline.ofReport?_report (lifeline : Lifeline) :
    ofReport? lifeline.report = some lifeline := by
  apply read_bind (LifelineStyle.ofReport?_report lifeline.style)
  apply read_bind (Catalog.ofReport?_report lifeline.states)
  rfl

theorem Tick.ofReport?_report (tick : Tick) : ofReport? tick.report = some tick :=
  rfl

theorem Span.ofReport?_report (span : Span) : ofReport? span.report = some span :=
  rfl

theorem LabelSide.ofReport?_report (side : LabelSide) : ofReport? side.report = some side := by
  cases side <;> rfl

theorem ArrowStyle.ofReport?_report (style : ArrowStyle) :
    ofReport? (.string style.name) = some style := by
  cases style <;> rfl

theorem Arrow.ofReport?_report (arrow : Arrow) : ofReport? arrow.report = some arrow := by
  apply read_bind (option?_string arrow.label)
  apply read_bind (LabelSide.ofReport?_report arrow.labelSide)
  apply read_bind (ArrowStyle.ofReport?_report arrow.style)
  rfl

theorem Diagram.ofReport?_report (diagram : Diagram) :
    ofReport? diagram.report = some diagram := by
  apply read_bind (Config.ofReport?_report diagram.config)
  apply read_bind (table?_report Lifeline.ofReport?_report diagram.lifelines)
  apply read_bind (list?_map Tick.ofReport?_report diagram.ticks)
  apply read_bind (list?_map Span.ofReport?_report diagram.spans)
  apply read_bind (list?_map Arrow.ofReport?_report diagram.arrows)
  rfl

theorem Warning.ofReport?_report (warning : Warning) : ofReport? warning.report = some warning :=
  rfl

theorem Draft.ofReport?_report (draft : Draft) : ofReport? draft.report = some draft := by
  apply read_bind (Diagram.ofReport?_report draft.diagram)
  apply read_bind (list?_map Warning.ofReport?_report draft.warnings)
  rfl

/-! ### Time lines -/

def Snapshot.ofReport? : Json → Option Snapshot
  | .record [("stateIdx", .whole (.ofNat state)), ("significant", .bool significant)] =>
      some ⟨state, significant⟩
  | _ => none

def Row.ofReport? : Json → Option Row
  | .record [("time", .whole (.ofNat time)), ("states", states)] => do
      return ⟨time, ← table? Snapshot.ofReport? states⟩
  | _ => none

def Timeline.ofReport? : Json → Option Timeline
  | .record [("title", .string title), ("config", config), ("lifelines", lifelines),
      ("ticks", rows), ("spans", spans), ("arrows", arrows)] => do
      return ⟨title, ← Config.ofReport? config, ← table? Lifeline.ofReport? lifelines,
        ← list? Row.ofReport? rows, ← list? Span.ofReport? spans, ← list? Arrow.ofReport? arrows⟩
  | _ => none

/-- Read a time line with the warnings of its draft. -/
def Timeline.ofReportWith? : Json → Option (Timeline × List Warning)
  | .record [("processed", timeline), ("warnings", warnings)] => do
      return (← Timeline.ofReport? timeline, ← list? Warning.ofReport? warnings)
  | _ => none

theorem Snapshot.ofReport?_report (snapshot : Snapshot) :
    ofReport? snapshot.report = some snapshot :=
  rfl

theorem Row.ofReport?_report (row : Row) : ofReport? row.report = some row := by
  apply read_bind (table?_report Snapshot.ofReport?_report row.states)
  rfl

theorem Timeline.ofReport?_report (timeline : Timeline) :
    ofReport? timeline.report = some timeline := by
  apply read_bind (Config.ofReport?_report timeline.config)
  apply read_bind (table?_report Lifeline.ofReport?_report timeline.lifelines)
  apply read_bind (list?_map Row.ofReport?_report timeline.rows)
  apply read_bind (list?_map Span.ofReport?_report timeline.spans)
  apply read_bind (list?_map Arrow.ofReport?_report timeline.arrows)
  rfl

theorem Timeline.ofReportWith?_reportWith (timeline : Timeline) (warnings : List Warning) :
    ofReportWith? (timeline.reportWith warnings) = some (timeline, warnings) := by
  apply read_bind timeline.ofReport?_report
  apply read_bind (list?_map Warning.ofReport?_report warnings)
  rfl

/-! ### Pages -/

def Point.ofReport? : Json → Option (Point Float)
  | .list [.number x, .number y] => some ⟨x, y⟩
  | _ => none

def Size.ofReport? : Json → Option (Size Float)
  | .list [.number width, .number height] => some ⟨width, height⟩
  | _ => none

def Segment.ofReport? : Json → Option (Segment Float)
  | .record [("from", start), ("to", finish)] => do
      return ⟨← Point.ofReport? start, ← Point.ofReport? finish⟩
  | _ => none

def TextAnchor.ofReport? : Json → Option TextAnchor
  | .string "start" => some .start
  | .string "middle" => some .middle
  | .string "end" => some .finish
  | _ => none

def TitleLayout.ofReport? : Json → Option (TitleLayout Float)
  | .record [("text", .string text), ("pos", position), ("labelBox", frame)] => do
      return ⟨text, ← Point.ofReport? position, ← Size.ofReport? frame⟩
  | _ => none

def StateRow.ofReport? : Json → Option (StateRow Float)
  | .record [("idx", .whole (.ofNat index)), ("label", .string label), ("y", .number y),
      ("axis", axis), ("labelPos", position)] => do
      return ⟨index, label, y, ← Segment.ofReport? axis, ← Point.ofReport? position⟩
  | _ => none

def Shade.ofReport? : Json → Option (Shade Float)
  | .record [("fromTick", .whole (.ofNat fromTick)), ("toTick", .whole (.ofNat toTick)),
      ("stateIdx", .whole (.ofNat state)), ("origin", origin), ("size", size),
      ("fill", .string fill)] => do
      return ⟨fromTick, toTick, state, ← Point.ofReport? origin, ← Size.ofReport? size, fill⟩
  | _ => none

def Track.ofReport? : Json → Option (Track Float)
  | .record [("kind", .string "staircase"), ("points", points)] => do
      return .staircase (← list? Point.ofReport? points)
  | .record [("kind", .string "bus"), ("upper", upper), ("lower", lower), ("band", band)] => do
      return .bus (← list? Point.ofReport? upper) (← list? Point.ofReport? lower)
        (← list? Point.ofReport? band)
  | _ => none

def LifelineBox.ofReport? : Json → Option (LifelineBox Float)
  | .record [("name", .string name), ("style", style), ("top", .number top),
      ("height", .number height), ("outline", outline), ("labelPos", position),
      ("stateRows", stateRows), ("tickMarks", tickMarks), ("track", track), ("shading", shades),
      ("separators", separators), ("attachments", attachments)] => do
      return ⟨name, ← LifelineStyle.ofReport? style, top, height, ← list? Point.ofReport? outline,
        ← Point.ofReport? position, ← list? StateRow.ofReport? stateRows,
        ← list? Segment.ofReport? tickMarks, ← Track.ofReport? track,
        ← list? Shade.ofReport? shades, ← list? Segment.ofReport? separators,
        ← list? (list? Point.ofReport?) attachments⟩
  | _ => none

def SpanLayout.ofReport? : Json → Option (SpanLayout Float)
  | .record [("lifeline", .string lifeline), ("from", start), ("to", finish), ("caps", caps),
      ("label", .string label), ("labelPos", position)] => do
      return ⟨lifeline, ← Point.ofReport? start, ← Point.ofReport? finish,
        ← list? Segment.ofReport? caps, label, ← Point.ofReport? position⟩
  | _ => none

def LabelLayout.ofReport? : Json → Option (LabelLayout Float)
  | .record [("text", .string text), ("pos", position), ("anchor", anchor)] => do
      return ⟨text, ← Point.ofReport? position, ← TextAnchor.ofReport? anchor⟩
  | _ => none

def ArrowLayout.ofReport? : Json → Option (ArrowLayout Float)
  | .record [("from", start), ("to", finish), ("style", style), ("label", label)] => do
      return ⟨← Point.ofReport? start, ← Point.ofReport? finish, ← ArrowStyle.ofReport? style,
        ← option? LabelLayout.ofReport? label⟩
  | _ => none

def LegendEntry.ofReport? : Json → Option (LegendEntry Float)
  | .record [("tick", .whole (.ofNat tick)), ("pos", position)] => do
      return ⟨tick, ← Point.ofReport? position⟩
  | _ => none

def Legend.ofReport? : Json → Option (Legend Float)
  | .record [("y", .number y), ("entries", entries)] => do
      return ⟨y, ← list? LegendEntry.ofReport? entries⟩
  | _ => none

def Page.ofReport? : Json → Option (Page Float)
  | .record [("width", .number width), ("height", .number height), ("scale", .number scale),
      ("lifelineBaseX", .number gridBase), ("tickWidth", .number tickWidth),
      ("numTicks", .whole (.ofNat tickCount)), ("title", title), ("lifelines", lifelines),
      ("spans", spans), ("arrows", arrows), ("legend", legend)] => do
      return ⟨width, height, scale, gridBase, tickWidth, tickCount, ← TitleLayout.ofReport? title,
        ← list? LifelineBox.ofReport? lifelines, ← list? SpanLayout.ofReport? spans,
        ← list? ArrowLayout.ofReport? arrows, ← Legend.ofReport? legend⟩
  | _ => none

theorem Point.ofReport?_report (p : Point Float) : ofReport? p.report = some p :=
  rfl

theorem Size.ofReport?_report (size : Size Float) : ofReport? size.report = some size :=
  rfl

theorem list?_points (points : List (Point Float)) :
    list? Point.ofReport? (pointsReport points) = some points :=
  list?_map Point.ofReport?_report points

theorem Segment.ofReport?_report (segment : Segment Float) :
    ofReport? segment.report = some segment :=
  rfl

theorem TextAnchor.ofReport?_report (anchor : TextAnchor) :
    ofReport? anchor.report = some anchor := by
  cases anchor <;> rfl

theorem TitleLayout.ofReport?_report (title : TitleLayout Float) :
    ofReport? title.report = some title :=
  rfl

theorem StateRow.ofReport?_report (row : StateRow Float) : ofReport? row.report = some row :=
  rfl

theorem Shade.ofReport?_report (shade : Shade Float) : ofReport? shade.report = some shade :=
  rfl

theorem Track.ofReport?_report (track : Track Float) : ofReport? track.report = some track := by
  cases track with
  | staircase points =>
      apply read_bind (list?_points points)
      rfl
  | bus upper lower band =>
      apply read_bind (list?_points upper)
      apply read_bind (list?_points lower)
      apply read_bind (list?_points band)
      rfl

theorem LifelineBox.ofReport?_report (box : LifelineBox Float) :
    ofReport? box.report = some box := by
  apply read_bind (LifelineStyle.ofReport?_report box.style)
  apply read_bind (list?_points box.outline)
  apply read_bind (Point.ofReport?_report box.labelPosition)
  apply read_bind (list?_map StateRow.ofReport?_report box.stateRows)
  apply read_bind (list?_map Segment.ofReport?_report box.tickMarks)
  apply read_bind (Track.ofReport?_report box.track)
  apply read_bind (list?_map Shade.ofReport?_report box.shades)
  apply read_bind (list?_map Segment.ofReport?_report box.separators)
  apply read_bind (list?_map list?_points box.attachments)
  rfl

theorem SpanLayout.ofReport?_report (span : SpanLayout Float) :
    ofReport? span.report = some span := by
  apply read_bind (Point.ofReport?_report span.start)
  apply read_bind (Point.ofReport?_report span.finish)
  apply read_bind (list?_map Segment.ofReport?_report span.caps)
  rfl

theorem LabelLayout.ofReport?_report (label : LabelLayout Float) :
    ofReport? label.report = some label := by
  apply read_bind (Point.ofReport?_report label.position)
  apply read_bind (TextAnchor.ofReport?_report label.anchor)
  rfl

theorem ArrowLayout.ofReport?_report (arrow : ArrowLayout Float) :
    ofReport? arrow.report = some arrow := by
  have label := option?_option LabelLayout.ofReport?_report
    (fun _ same => Json.noConfusion same) arrow.label
  apply read_bind (Point.ofReport?_report arrow.start)
  apply read_bind (Point.ofReport?_report arrow.finish)
  apply read_bind (ArrowStyle.ofReport?_report arrow.style)
  apply read_bind label
  rfl

theorem LegendEntry.ofReport?_report (entry : LegendEntry Float) :
    ofReport? entry.report = some entry :=
  rfl

theorem Legend.ofReport?_report (legend : Legend Float) :
    ofReport? legend.report = some legend := by
  apply read_bind (list?_map LegendEntry.ofReport?_report legend.entries)
  rfl

theorem Page.ofReport?_report (page : Page Float) : ofReport? page.report = some page := by
  apply read_bind (TitleLayout.ofReport?_report page.title)
  apply read_bind (list?_map LifelineBox.ofReport?_report page.lifelines)
  apply read_bind (list?_map SpanLayout.ofReport?_report page.spans)
  apply read_bind (list?_map ArrowLayout.ofReport?_report page.arrows)
  apply read_bind (Legend.ofReport?_report page.legend)
  rfl

end Chronogram
