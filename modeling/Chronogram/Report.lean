import Chronogram.Diagram.Draft
import Chronogram.Drawing
import Chronogram.Json
import Chronogram.Timeline

/-!
Diagrams, time lines, layouts and drawings as JSON.

The names and the order of the members belong to the format of the reports.
-/

namespace Chronogram

open Json

def LegendMode.report : LegendMode → Json
  | .byFrequency => .string "byFrequency"
  | .onlySignificant => .string "onlySignificant"

def Config.report (config : Config) : Json :=
  .record [("tickWidth", .number config.tickWidth), ("tickFreq", .nat config.legendFrequency),
    ("legendMode", config.legendMode.report), ("scale", .number config.scale)]

/-- The report of a catalog: every slot, holes as null. -/
def Catalog.report (catalog : Catalog) : Json :=
  .list (catalog.slots.map (Json.option .string))

def Lifeline.report (lifeline : Lifeline) : Json :=
  .record [("name", .string lifeline.name), ("style", .string lifeline.style.name),
    ("states", lifeline.states.report)]

def Tick.report (tick : Tick) : Json :=
  .record [("time", .nat tick.time), ("lifeline", .string tick.lifeline),
    ("stateIdx", .nat tick.state)]

def Span.report (span : Span) : Json :=
  .record [("lifeline", .string span.lifeline), ("originTick", .nat span.originTick),
    ("destTick", .nat span.destTick), ("label", .string span.label)]

def LabelSide.report : LabelSide → Json
  | .left => .string "L"
  | .right => .string "R"

def Arrow.report (arrow : Arrow) : Json :=
  .record [("originLifeline", .string arrow.origin.lifeline),
    ("originTick", .nat arrow.origin.tick), ("originIdx", .nat arrow.origin.slot),
    ("destLifeline", .string arrow.dest.lifeline), ("destTick", .nat arrow.dest.tick),
    ("destIdx", .nat arrow.dest.slot), ("label", Json.option .string arrow.label),
    ("labelPos", .whole arrow.labelPosition), ("labelSide", arrow.labelSide.report),
    ("style", .string arrow.style.name)]

def Table.report {α : Type} (encode : α → Json) (table : Table α) : Json :=
  .table (table.entries.map fun (key, value) => (key, encode value))

def Diagram.report (diagram : Diagram) : Json :=
  .record [("title", .string diagram.title), ("config", diagram.config.report),
    ("lifelines", diagram.lifelines.report Lifeline.report),
    ("ticks", .list (diagram.ticks.map Tick.report)),
    ("spans", .list (diagram.spans.map Span.report)),
    ("arrows", .list (diagram.arrows.map Arrow.report))]

def Warning.report (warning : Warning) : Json :=
  .record [("line", .nat warning.line), ("text", .string warning.text)]

def Draft.report (draft : Draft) : Json :=
  .record [("diagram", draft.diagram.report),
    ("warnings", .list (draft.warnings.map Warning.report))]

def Snapshot.report (snapshot : Snapshot) : Json :=
  .record [("stateIdx", .nat snapshot.state), ("significant", .bool snapshot.significant)]

def Row.report (row : Row) : Json :=
  .record [("time", .nat row.time), ("states", row.states.report Snapshot.report)]

def Timeline.report (timeline : Timeline) : Json :=
  .record [("title", .string timeline.title), ("config", timeline.config.report),
    ("lifelines", timeline.lifelines.report Lifeline.report),
    ("ticks", .list (timeline.rows.map Row.report)),
    ("spans", .list (timeline.spans.map Span.report)),
    ("arrows", .list (timeline.arrows.map Arrow.report))]

def Timeline.reportWith (timeline : Timeline) (warnings : List Warning) : Json :=
  .record [("processed", timeline.report), ("warnings", .list (warnings.map Warning.report))]

def Point.report (p : Point Float) : Json :=
  .list [.number p.x, .number p.y]

def Size.report (size : Size Float) : Json :=
  .list [.number size.width, .number size.height]

def pointsReport (points : List (Point Float)) : Json :=
  .list (points.map Point.report)

def Segment.report (segment : Segment Float) : Json :=
  .record [("from", segment.start.report), ("to", segment.finish.report)]

def TextAnchor.report (anchor : TextAnchor) : Json :=
  .string anchor.name

def TitleLayout.report (title : TitleLayout Float) : Json :=
  .record [("text", .string title.text), ("pos", title.position.report),
    ("labelBox", title.frame.report)]

def StateRow.report (row : StateRow Float) : Json :=
  .record [("idx", .nat row.index), ("label", .string row.label), ("y", .number row.y),
    ("axis", row.axis.report), ("labelPos", row.labelPosition.report)]

def Shade.report (shade : Shade Float) : Json :=
  .record [("fromTick", .nat shade.fromTick), ("toTick", .nat shade.toTick),
    ("stateIdx", .nat shade.state), ("origin", shade.origin.report), ("size", shade.size.report),
    ("fill", .string shade.fill)]

def Track.report : Track Float → Json
  | .staircase points =>
      .record [("kind", .string "staircase"), ("points", pointsReport points)]
  | .bus upper lower band =>
      .record [("kind", .string "bus"), ("upper", pointsReport upper),
        ("lower", pointsReport lower), ("band", pointsReport band)]

def LifelineBox.report (box : LifelineBox Float) : Json :=
  .record [("name", .string box.name), ("style", .string box.style.name), ("top", .number box.top),
    ("height", .number box.height), ("outline", pointsReport box.outline),
    ("labelPos", box.labelPosition.report),
    ("stateRows", .list (box.stateRows.map StateRow.report)),
    ("tickMarks", .list (box.tickMarks.map Segment.report)), ("track", box.track.report),
    ("shading", .list (box.shades.map Shade.report)),
    ("separators", .list (box.separators.map Segment.report)),
    ("attachments", .list (box.attachments.map pointsReport))]

def SpanLayout.report (span : SpanLayout Float) : Json :=
  .record [("lifeline", .string span.lifeline), ("from", span.start.report),
    ("to", span.finish.report), ("caps", .list (span.caps.map Segment.report)),
    ("label", .string span.label), ("labelPos", span.labelPosition.report)]

def LabelLayout.report (label : LabelLayout Float) : Json :=
  .record [("text", .string label.text), ("pos", label.position.report),
    ("anchor", label.anchor.report)]

def ArrowLayout.report (arrow : ArrowLayout Float) : Json :=
  .record [("from", arrow.start.report), ("to", arrow.finish.report),
    ("style", .string arrow.style.name), ("label", Json.option LabelLayout.report arrow.label)]

def LegendEntry.report (entry : LegendEntry Float) : Json :=
  .record [("tick", .nat entry.tick), ("pos", entry.position.report)]

def Legend.report (legend : Legend Float) : Json :=
  .record [("y", .number legend.y), ("entries", .list (legend.entries.map LegendEntry.report))]

def Page.report (page : Page Float) : Json :=
  .record [("width", .number page.width), ("height", .number page.height),
    ("scale", .number page.scale), ("lifelineBaseX", .number page.gridBase),
    ("tickWidth", .number page.tickWidth), ("numTicks", .nat page.tickCount),
    ("title", page.title.report), ("lifelines", .list (page.lifelines.map LifelineBox.report)),
    ("spans", .list (page.spans.map SpanLayout.report)),
    ("arrows", .list (page.arrows.map ArrowLayout.report)), ("legend", page.legend.report)]

def Shape.report : Shape Float → Json
  | .line start finish dashed =>
      .record [("shape", .string "line"), ("from", start.report), ("to", finish.report),
        ("dashed", .bool dashed)]
  | .rect origin size fill =>
      .record [("shape", .string "rect"), ("origin", origin.report), ("size", size.report),
        ("fill", Json.option .string fill)]
  | .polygon points fill =>
      .record [("shape", .string "polygon"), ("points", pointsReport points),
        ("fill", .string fill)]
  | .polyline points strokeWidth =>
      .record [("shape", .string "polyline"), ("points", pointsReport points),
        ("stroke_width", .number strokeWidth)]
  | .text position role content anchor =>
      .record [("shape", .string "text"), ("pos", position.report), ("class", .string role.name),
        ("content", .string content), ("anchor", Json.option TextAnchor.report anchor)]
  | .arrow start finish style =>
      .record [("shape", .string "arrow"), ("from", start.report), ("to", finish.report),
        ("style", .string style.name)]
  | .doubleArrow start finish =>
      .record [("shape", .string "doubleArrow"), ("from", start.report), ("to", finish.report)]

end Chronogram
