import Chronogram.Proofs.Layout.Dependence
import Chronogram.Proofs.Svg.Writing
import Chronogram.Svg.Document

/-!
The scale.

Layout passes the scale of a diagram on to its page and does not look at it. A document is made
without it: it is fixed text with unscaled numbers in between, and the scale enters where one of
these numbers is written. So a change of the scale changes these numbers in proportion and leaves
everything between them.
-/

namespace Chronogram

def Diagram.rescaled (diagram : Diagram) (scale : Float) : Diagram :=
  { diagram with config := { diagram.config with scale } }

def Timeline.rescaled (timeline : Timeline) (scale : Float) : Timeline :=
  { timeline with config := { timeline.config with scale } }

namespace Page

variable {α : Type} [Scalar α] (timeline : Timeline) (scale : Float)

/-- Layout fails alike at every scale, and its pages differ in their scale only. -/
theorem layout_rescaled (measurer : Measurer α) :
    SameOutcome (fun before after => after = { before with scale := Scalar.ofFloat scale })
      (layout measurer timeline) (layout measurer (timeline.rescaled scale)) := by
  have sameGrid : gridOf measurer (timeline.rescaled scale) = gridOf measurer timeline := rfl
  have sameColumn : (timeline.rescaled scale).column = timeline.column := rfl
  unfold layout
  rw [sameGrid]
  refine .bind_eq (stack_congr sameColumn _ _ _).symm fun stacked => ?_
  obtain ⟨boxes, height⟩ := stacked
  refine .bind_eq rfl fun spans => .bind_eq rfl fun arrows => ?_
  exact .done rfl

end Page

/-! ### Numbers -/

def Point.numbers (point : Point Float) : List Float :=
  [point.x, point.y]

namespace Svg

def dashNumbers (dashed : Bool) : List Float :=
  if dashed then [dashLength] else []

end Svg

open Svg in
/-- The coordinates, lengths and widths of the lines of a shape. -/
def Shape.numbers : Shape Float → List Float
  | .line start finish dashed =>
      start.numbers ++ finish.numbers ++ thinStroke :: dashNumbers dashed
  | .rect origin size fill =>
      origin.numbers ++ size.width :: size.height :: (if fill.isNone then [thinStroke] else [])
  | .polygon points _ => points.flatMap Point.numbers
  | .polyline points width => points.flatMap Point.numbers ++ [width]
  | .text position _ _ _ => position.numbers
  | .arrow start finish style =>
      start.numbers ++ finish.numbers ++ thinStroke :: dashNumbers (style = .dashed)
  | .doubleArrow start finish => start.numbers ++ finish.numbers ++ [thinStroke]

namespace Svg

/-- All numbers of the drawing of a page: its size, also as the size of the view, the sizes of the
letters, the border, the frame of the title and the shapes. -/
def drawingNumbers (page : Page Float) : List Float :=
  [page.width, page.height, page.width, page.height] ++
    TextClass.all.map (fun role => Float.ofInt role.fontSize) ++
    (borderPoints ⟨page.width, page.height⟩).flatMap Point.numbers ++ [borderStroke] ++
    (framePoints page.title.frame).flatMap Point.numbers ++ [borderStroke] ++
    (Drawing.ofPage page).flatMap Shape.numbers

@[simp]
def Piece.number? : Piece → Option Float
  | .literal _ => none
  | .scaled value => some value

def Attribute.numbers (item : Attribute) : List Float :=
  item.value.filterMap Piece.number?

def Token.numbers (token : Token) : List Float :=
  token.pieces.filterMap Piece.number?

theorem filterMap_tokenPieces (tokens : List Token) :
    (tokenPieces tokens).filterMap Piece.number? = tokens.flatMap Token.numbers := by
  induction tokens with
  | nil => rfl
  | cons token rest inductionHypothesis =>
      rw [tokenPieces, List.flatMap_cons, List.filterMap_append, List.flatMap_cons]
      exact congrArg (token.numbers ++ ·) inductionHypothesis

theorem filterMap_pieces (attributes : List Attribute) :
    (attributes.flatMap Attribute.pieces).filterMap Piece.number? =
      attributes.flatMap Attribute.numbers := by
  induction attributes with
  | nil => rfl
  | cons item rest inductionHypothesis =>
      simp [Attribute.pieces, Attribute.numbers, List.filterMap_cons, inductionHypothesis]

/-! The numbers of a token are those of its attributes, or of its character data. -/

@[simp]
theorem numbers_startTag (name : String) (attributes : List Attribute) :
    (Token.startTag name attributes).numbers = attributes.flatMap Attribute.numbers := by
  simp [Token.numbers, Token.pieces, List.filterMap_cons, filterMap_pieces]

@[simp]
theorem numbers_emptyTag (name : String) (attributes : List Attribute) :
    (Token.emptyTag name attributes).numbers = attributes.flatMap Attribute.numbers := by
  simp [Token.numbers, Token.pieces, List.filterMap_cons, filterMap_pieces]

@[simp]
theorem numbers_endTag (name : String) : (Token.endTag name).numbers = [] := rfl

@[simp]
theorem numbers_declaration : Token.declaration.numbers = [] := rfl

@[simp]
theorem numbers_tokenFixed (text : String) : (Token.fixed text).numbers = [] := rfl

@[simp]
theorem numbers_newline : Token.newline.numbers = [] := rfl

@[simp]
theorem numbers_fixed (name value : String) : (Attribute.fixed name value).numbers = [] := rfl

@[simp]
theorem numbers_number (name : String) (value : Float) :
    (Attribute.number name value).numbers = [value] := rfl

@[simp]
theorem numbers_pointsAttribute (points : List (Point Float)) :
    (pointsAttribute points).numbers = points.flatMap Point.numbers := by
  unfold Attribute.numbers pointsAttribute pointListPieces
  induction points with
  | nil => rfl
  | cons first rest inductionHypothesis =>
      cases rest with
      | nil => rfl
      | cons second others =>
          rw [List.flatMap_cons, ← inductionHypothesis]
          rfl

@[simp]
theorem numbers_strokeAttributes (width : Float) :
    (strokeAttributes width).flatMap Attribute.numbers = [width] := rfl

@[simp]
theorem numbers_dashAttributes (dashed : Bool) :
    (dashAttributes dashed).flatMap Attribute.numbers = dashNumbers dashed := by
  cases dashed <;> rfl

@[simp]
theorem numbers_polylineAttributes (points : List (Point Float)) (width : Float) :
    (polylineAttributes points width).flatMap Attribute.numbers =
      points.flatMap Point.numbers ++ [width] := by
  simp [polylineAttributes]

theorem numbers_shapeTokens (marker : String) (shape : Shape Float) :
    (shapeTokens marker shape).flatMap Token.numbers = shape.numbers := by
  cases shape with
  | line start finish dashed => simp [shapeTokens, Shape.numbers, Point.numbers]
  | rect origin size fill =>
      cases fill <;> simp [shapeTokens, Shape.numbers, Point.numbers]
  | polygon points fill => simp [shapeTokens, Shape.numbers]
  | polyline points width => simp [shapeTokens, Shape.numbers]
  | text position role content anchor =>
      cases anchor <;> simp [shapeTokens, Shape.numbers, Point.numbers]
  | arrow start finish style => simp [shapeTokens, Shape.numbers]
  | doubleArrow start finish => simp [shapeTokens, Shape.numbers]

theorem numbers_styleSheet (scope : String) :
    (Token.characters (styleSheet scope)).numbers =
      TextClass.all.map fun role => Float.ofInt role.fontSize := rfl

theorem numbers_rootTag (root : Option String) (size : Size Float) :
    (rootTag root size).numbers = [size.width, size.height, size.width, size.height] := by
  cases root <;> rfl

theorem numbers_markerTokens (marker : String) :
    (markerTokens marker).flatMap Token.numbers = [] := rfl

theorem numbers_document (root : Option String) (page : Page Float) :
    (document root page).flatMap Token.numbers = drawingNumbers page := by
  have shapes : ((Drawing.ofPage page).flatMap fun shape =>
      shapeTokens (markerId root) shape ++ [.newline]).flatMap Token.numbers =
        (Drawing.ofPage page).flatMap Shape.numbers := by
    simp [List.flatMap_assoc, numbers_shapeTokens]
  simp [document, header, footer, drawingNumbers, shapes, numbers_rootTag, numbers_styleSheet,
    numbers_markerTokens]

/-- Cut pieces where the numbers stand: the text in front of the first number, and each number with
the text behind it. -/
def cutAtNumbers : List Piece → List Char × List (Float × List Char)
  | [] => ([], [])
  | .literal text :: rest =>
      let (first, others) := cutAtNumbers rest
      (text.toList ++ first, others)
  | .scaled value :: rest =>
      let (first, others) := cutAtNumbers rest
      ([], (value, first) :: others)

theorem map_fst_cutAtNumbers (pieces : List Piece) :
    (cutAtNumbers pieces).2.map Prod.fst = pieces.filterMap Piece.number? := by
  induction pieces with
  | nil => rfl
  | cons piece rest inductionHypothesis =>
      cases piece with
      | literal text => exact inductionHypothesis
      | scaled value => exact congrArg (value :: ·) inductionHypothesis

theorem toList_writePieces_cutAtNumbers (scale : Float) (pieces : List Piece) :
    (writePieces scale pieces).toList = (cutAtNumbers pieces).1 ++
      (cutAtNumbers pieces).2.flatMap fun (value, text) => numberText (value * scale) ++ text := by
  rw [toList_writePieces]
  induction pieces with
  | nil => rfl
  | cons piece rest inductionHypothesis =>
      rw [List.flatMap_cons, inductionHypothesis]
      cases piece with
      | literal text => simp [cutAtNumbers, Piece.chars, Piece.write]
      | scaled value => simp [cutAtNumbers, Piece.chars, Piece.write]

/-! ### Attributes -/

/-- The attributes that hold coordinates, lengths and widths of lines. -/
def measureNames : List String :=
  ["x", "y", "x1", "y1", "x2", "y2", "width", "height", "points", "stroke-width",
    "stroke-dasharray"]

/-- How the scale enters an attribute: a measure holds nothing but numbers that are scaled, the view
has a fixed origin, and everything else is fixed. -/
inductive Attribute.Scales : Attribute → Prop where
  | measure {name : String} {value : List Piece} (known : name ∈ measureNames)
      (numbers : ∀ piece ∈ value,
        (∃ number, piece = .scaled number) ∨ piece = .literal "," ∨ piece = .literal " ") :
      Scales ⟨name, value⟩
  | view (width height : Float) :
      Scales ⟨"viewBox", [.literal "0 0 ", .scaled width, .literal " ", .scaled height]⟩
  | words {name : String} (other : name ∉ measureNames ∧ name ≠ "viewBox") (value : String) :
      Scales (.fixed name value)

/-- How the scale enters a token: through its attributes, or through the sizes of the letters in the
style sheet. -/
def Token.Scales : Token → Prop
  | .declaration | .endTag _ => True
  | .startTag _ attributes | .emptyTag _ attributes => ∀ item ∈ attributes, item.Scales
  | .characters content =>
      (∃ text, content = [.literal text]) ∨ ∃ scope, content = styleSheet scope

theorem scales_number {name : String} (known : name ∈ measureNames) (value : Float) :
    (Attribute.number name value).Scales :=
  .measure known (List.forall_mem_singleton.mpr (.inl ⟨value, rfl⟩))

theorem scales_pointsAttribute (points : List (Point Float)) : (pointsAttribute points).Scales := by
  refine .measure (by decide) ?_
  unfold pointListPieces
  induction points with
  | nil => simp
  | cons first rest inductionHypothesis =>
      have own : ∀ piece ∈ pointPieces first,
          (∃ number, piece = .scaled number) ∨ piece = .literal "," ∨ piece = .literal " " := by
        simp [pointPieces]
      cases rest with
      | nil => simpa using own
      | cons second others =>
          have cut : (((first :: second :: others).map pointPieces).intersperse
              [.literal " "]).flatten = pointPieces first ++ .literal " " ::
                (((second :: others).map pointPieces).intersperse [.literal " "]).flatten := rfl
          rw [cut]
          refine List.forall_mem_append.mpr ⟨own, ?_⟩
          exact List.forall_mem_cons.mpr ⟨.inr (.inr rfl), inductionHypothesis⟩

theorem scales_strokeAttributes (width : Float) :
    ∀ item ∈ strokeAttributes width, item.Scales := by
  refine List.forall_mem_cons.mpr ⟨.words (by decide) "black", ?_⟩
  exact List.forall_mem_singleton.mpr (scales_number (by decide) width)

theorem scales_dashAttributes (dashed : Bool) : ∀ item ∈ dashAttributes dashed, item.Scales := by
  cases dashed with
  | false => simp [dashAttributes]
  | true => exact List.forall_mem_singleton.mpr (scales_number (by decide) dashLength)

theorem scales_polylineAttributes (points : List (Point Float)) (width : Float) :
    ∀ item ∈ polylineAttributes points width, item.Scales := by
  refine List.forall_mem_cons.mpr ⟨scales_pointsAttribute points, ?_⟩
  exact List.forall_mem_cons.mpr ⟨.words (by decide) "none", scales_strokeAttributes width⟩

theorem scales_shapeTokens (marker : String) (shape : Shape Float) :
    ∀ token ∈ shapeTokens marker shape, token.Scales := by
  cases shape with
  | line start finish dashed =>
      refine List.forall_mem_singleton.mpr ?_
      refine List.forall_mem_append.mpr ⟨List.forall_mem_append.mpr ⟨?_, ?_⟩, ?_⟩
      · simp only [List.forall_mem_cons]
        exact ⟨scales_number (by decide) _, scales_number (by decide) _,
          scales_number (by decide) _, scales_number (by decide) _, by simp⟩
      · exact scales_strokeAttributes thinStroke
      · exact scales_dashAttributes dashed
  | rect origin size fill =>
      refine List.forall_mem_singleton.mpr (List.forall_mem_append.mpr ⟨?_, ?_⟩)
      · simp only [List.forall_mem_cons]
        exact ⟨scales_number (by decide) _, scales_number (by decide) _,
          scales_number (by decide) _, scales_number (by decide) _, .words (by decide) _, by simp⟩
      · cases fill with
        | none => exact scales_strokeAttributes thinStroke
        | some color => exact List.forall_mem_singleton.mpr (.words (by decide) "none")
  | polygon points fill =>
      refine List.forall_mem_singleton.mpr ?_
      refine List.forall_mem_cons.mpr ⟨scales_pointsAttribute points, ?_⟩
      refine List.forall_mem_cons.mpr ⟨.words (by decide) fill, ?_⟩
      exact List.forall_mem_singleton.mpr (.words (by decide) "none")
  | polyline points width =>
      exact List.forall_mem_singleton.mpr (scales_polylineAttributes points width)
  | text position role content anchor =>
      refine List.forall_mem_cons.mpr ⟨List.forall_mem_append.mpr ⟨?_, ?_⟩, ?_⟩
      · intro item membership
        obtain ⟨side, -, rfl⟩ := List.mem_map.mp membership
        exact .words (by decide) side.name
      · simp only [List.forall_mem_cons]
        exact ⟨scales_number (by decide) _, scales_number (by decide) _, .words (by decide) _,
          by simp⟩
      · exact List.forall_mem_cons.mpr
          ⟨.inl ⟨content, rfl⟩, List.forall_mem_singleton.mpr trivial⟩
  | arrow start finish style =>
      refine List.forall_mem_singleton.mpr ?_
      refine List.forall_mem_append.mpr ⟨List.forall_mem_append.mpr ⟨?_, ?_⟩, ?_⟩
      · exact scales_polylineAttributes _ thinStroke
      · exact scales_dashAttributes _
      · exact List.forall_mem_singleton.mpr (.words (by decide) _)
  | doubleArrow start finish =>
      refine List.forall_mem_singleton.mpr (List.forall_mem_append.mpr ⟨?_, ?_⟩)
      · exact scales_polylineAttributes _ thinStroke
      · refine List.forall_mem_cons.mpr ⟨.words (by decide) _, ?_⟩
        exact List.forall_mem_singleton.mpr (.words (by decide) _)

theorem scales_newline : Token.newline.Scales :=
  .inl ⟨"\n", rfl⟩

theorem scales_rootTag (root : Option String) (size : Size Float) :
    (rootTag root size).Scales := by
  refine List.forall_mem_cons.mpr ⟨.words (by decide) _, List.forall_mem_append.mpr ⟨?_, ?_⟩⟩
  · intro item membership
    obtain ⟨id, -, rfl⟩ := List.mem_map.mp membership
    exact .words (by decide) id
  · simp only [List.forall_mem_cons]
    exact ⟨scales_number (by decide) _, scales_number (by decide) _,
      .view size.width size.height, by simp⟩

/-- Apart from the definition of the arrow head, every measure of a document is scaled. -/
theorem scales_document (root : Option String) (page : Page Float) :
    ∃ front back, document root page = front ++ markerTokens (markerId root) ++ back ∧
      ∀ token ∈ front ++ back, token.Scales := by
  let size : Size Float := ⟨page.width, page.height⟩
  refine ⟨[.declaration, .newline, rootTag root size, .newline, .startTag "style" [],
      .characters (styleSheet (styleScope root)), .endTag "style", .newline],
    [.newline, .emptyTag "polyline" (polylineAttributes (borderPoints size) borderStroke),
      .newline, .emptyTag "polyline" (polylineAttributes (framePoints page.title.frame)
        borderStroke), .newline] ++
      (Drawing.ofPage page).flatMap (fun shape => shapeTokens (markerId root) shape ++ [.newline]) ++
      footer, ?_, ?_⟩
  · simp only [document, header, List.append_assoc]
    rfl
  · refine List.forall_mem_append.mpr ⟨?_, List.forall_mem_append.mpr
      ⟨List.forall_mem_append.mpr ⟨?_, ?_⟩, ?_⟩⟩
    · simp only [List.forall_mem_cons]
      refine ⟨trivial, scales_newline, scales_rootTag root size, scales_newline, ?_, .inr ⟨_, rfl⟩,
        trivial, scales_newline, by simp⟩
      exact List.forall_mem_nil _
    · simp only [List.forall_mem_cons]
      exact ⟨scales_newline, scales_polylineAttributes _ _, scales_newline,
        scales_polylineAttributes _ _, scales_newline, by simp⟩
    · intro token membership
      obtain ⟨shape, -, here⟩ := List.mem_flatMap.mp membership
      rcases List.mem_append.mp here with drawn | last
      · exact scales_shapeTokens _ shape token drawn
      · rw [List.mem_singleton.mp last]
        exact scales_newline
    · exact List.forall_mem_cons.mpr ⟨trivial, List.forall_mem_singleton.mpr scales_newline⟩

end Svg

open Svg in
/-- The scale only rescales numbers. Diagrams that differ in their scale have the same rows, and
they fail alike or are laid out to pages that differ in their scale. The document of a page is fixed
text around the numbers of the drawing, each of them written multiplied by the scale once; outside
the definition of the arrow head and the origin of the view, no measure of the document is fixed. -/
theorem scale_only_rescales :
    (∀ (diagram : Diagram) (scale : Float),
      (diagram.rescaled scale).timeline = diagram.timeline.rescaled scale ∧
      ∀ {α : Type} [Scalar α] (measurer : Measurer α),
        SameOutcome (fun before after => after = { before with scale := Scalar.ofFloat scale })
          (Page.layout measurer diagram.timeline)
          (Page.layout measurer (diagram.rescaled scale).timeline)) ∧
    ∀ (root : Option String) (page : Page Float),
      (∃ front back, document root page = front ++ markerTokens (markerId root) ++ back ∧
        ∀ token ∈ front ++ back, token.Scales) ∧
      ∃ first rest, cutAtNumbers (tokenPieces (document root page)) = (first, rest) ∧
        rest.map Prod.fst = drawingNumbers page ∧
        ∀ scale, (render root { page with scale }).toList =
          first ++ rest.flatMap fun (value, text) => numberText (value * scale) ++ text := by
  refine ⟨fun diagram scale => ⟨rfl, fun measurer => ?_⟩, fun root page => ?_⟩
  · exact Page.layout_rescaled diagram.timeline scale measurer
  · let pieces := tokenPieces (document root page)
    refine ⟨scales_document root page, (cutAtNumbers pieces).1, (cutAtNumbers pieces).2, rfl, ?_,
      fun scale => ?_⟩
    · rw [map_fst_cutAtNumbers, filterMap_tokenPieces, numbers_document]
    · have unscaled : document root { page with scale } = document root page := rfl
      rw [render, writeTokens_eq, unscaled, toList_writePieces_cutAtNumbers]

end Chronogram
