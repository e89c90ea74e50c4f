import Chronogram.Proofs.Svg.Writing
import Chronogram.Svg.Document

/-!
The tags of a document.

The elements of a document are nested in each other whatever is drawn. Which tags a shape is written
with depends on its kind only, which leaves out its numbers, its colours and its text. So the tags of
a document follow from the kinds of its shapes.
-/

namespace Chronogram

namespace Svg

theorem Balanced.append {first second : List Lexeme} (balanced : Balanced first)
    (balanced' : Balanced second) : Balanced (first ++ second) := by
  induction balanced with
  | nil => exact balanced'
  | data lexeme rest isData _ inductionHypothesis => exact .data lexeme _ isData inductionHypothesis
  | empty name attributes rest _ inductionHypothesis =>
      exact .empty name attributes _ inductionHypothesis
  | element name attributes inside rest balancedInside _ _ inductionHypothesis =>
      rw [List.cons_append, List.append_assoc]
      exact .element name attributes inside _ balancedInside inductionHypothesis

theorem balanced_of_isData {lexemes : List Lexeme}
    (data : ∀ lexeme ∈ lexemes, lexeme.isData = true) : Balanced lexemes := by
  induction lexemes with
  | nil => exact .nil
  | cons lexeme rest inductionHypothesis =>
      obtain ⟨isData, dataRest⟩ := List.forall_mem_cons.mp data
      exact .data lexeme rest isData (inductionHypothesis dataRest)

def Token.tag? : Token → Option Tag
  | .startTag name attributes => some (.opening name (attributes.map Attribute.name))
  | .emptyTag name attributes => some (.empty name (attributes.map Attribute.name))
  | .endTag name => some (.closing name)
  | .declaration | .characters _ => none

theorem tags_of_isData {lexemes : List Lexeme} (data : ∀ lexeme ∈ lexemes, lexeme.isData = true) :
    tags lexemes = [] := by
  refine List.filterMap_eq_nil_iff.mpr fun lexeme membership => ?_
  have isData := data lexeme membership
  cases lexeme with
  | character | reference => rfl
  | declaration | tag | endTag => cases isData

theorem tags_append (first second : List Lexeme) :
    tags (first ++ second) = tags first ++ tags second :=
  List.filterMap_append

theorem tags_lexemes (scale : Float) (token : Token) :
    tags (token.lexemes scale) = token.tag?.toList := by
  cases token with
  | declaration | endTag => rfl
  | startTag name attributes | emptyTag name attributes =>
      simp [Token.lexemes, tags, Lexeme.tag?, Token.tag?, Attribute.textAt]
  | characters content => exact tags_of_isData (isData_dataAfter 0 _)

theorem tags_flatMap_lexemes (scale : Float) (tokens : List Token) :
    tags (tokens.flatMap (Token.lexemes scale)) = tokens.filterMap Token.tag? := by
  induction tokens with
  | nil => rfl
  | cons token rest inductionHypothesis =>
      rw [List.flatMap_cons, tags_append, tags_lexemes, inductionHypothesis, List.filterMap_cons]
      cases token.tag? <;> rfl

/-! ### Nesting of tokens -/

variable (scale : Float)

def Nested (tokens : List Token) : Prop :=
  Balanced (tokens.flatMap (Token.lexemes scale))

variable {scale}

theorem Nested.append {first second : List Token} (nested : Nested scale first)
    (nested' : Nested scale second) : Nested scale (first ++ second) := by
  rw [Nested, List.flatMap_append]
  exact Balanced.append nested nested'

theorem nested_flatMap {α : Type} {tokens : α → List Token} {items : List α}
    (nested : ∀ item, Nested scale (tokens item)) : Nested scale (items.flatMap tokens) := by
  induction items with
  | nil => exact .nil
  | cons item rest inductionHypothesis =>
      rw [List.flatMap_cons]
      exact (nested item).append inductionHypothesis

theorem nested_characters (content : List Piece) : Nested scale [.characters content] := by
  rw [Nested, List.flatMap_singleton]
  exact balanced_of_isData (isData_dataAfter 0 _)

theorem nested_emptyTag (name : String) (attributes : List Attribute) :
    Nested scale [.emptyTag name attributes] :=
  .empty name _ [] .nil

theorem nested_element (name : String) (attributes : List Attribute) {inside : List Token}
    (nested : Nested scale inside) :
    Nested scale (.startTag name attributes :: inside ++ [.endTag name]) := by
  rw [Nested, List.flatMap_append, List.flatMap_cons]
  exact .element name _ _ [] nested .nil

theorem nested_shapeTokens (marker : String) (shape : Shape Float) :
    Nested scale (shapeTokens marker shape) := by
  cases shape with
  | line | rect | polygon | polyline | arrow | doubleArrow => exact nested_emptyTag _ _
  | text => exact nested_element "text" _ (nested_characters _)

theorem nested_markerTokens (marker : String) : Nested scale (markerTokens marker) := by
  have path : Nested scale [.emptyTag "path" [.fixed "d" "M 0 0 L 15 7.5 L 0 15 z"]] :=
    nested_emptyTag _ _
  exact nested_element "defs" [] (nested_element "marker" _ path)

/-- Everything between the tags of the root element. -/
def body (root : Option String) (page : Page Float) : List Token :=
  let border := borderPoints ⟨page.width, page.height⟩
  let frame := framePoints page.title.frame
  [.newline] ++ [.startTag "style" [], .characters (styleSheet (styleScope root)), .endTag "style"] ++
    [.newline] ++ markerTokens (markerId root) ++
    [.newline] ++ [.emptyTag "polyline" (polylineAttributes border borderStroke)] ++
    [.newline] ++ [.emptyTag "polyline" (polylineAttributes frame borderStroke)] ++
    [.newline] ++
    (Drawing.ofPage page).flatMap (fun shape => shapeTokens (markerId root) shape ++ [.newline])

theorem document_eq (root : Option String) (page : Page Float) :
    document root page =
      [.declaration, .newline, rootTag root ⟨page.width, page.height⟩] ++ body root page ++
        footer := by
  simp [document, header, body]

theorem nested_body (root : Option String) (page : Page Float) : Nested scale (body root page) := by
  have newline : Nested scale [.newline] := nested_characters _
  have style : Nested scale
      [.startTag "style" [], .characters (styleSheet (styleScope root)), .endTag "style"] :=
    nested_element "style" [] (nested_characters _)
  have line : ∀ attributes, Nested scale [.emptyTag "polyline" attributes] := nested_emptyTag _
  have shapes : Nested scale ((Drawing.ofPage page).flatMap fun shape =>
      shapeTokens (markerId root) shape ++ [.newline]) :=
    nested_flatMap fun shape => (nested_shapeTokens (markerId root) shape).append newline
  have head := ((newline.append style).append newline).append (nested_markerTokens (markerId root))
  exact (((((head.append newline).append (line _)).append newline).append (line _)).append
    newline).append shapes

/-! ### Tags of shapes -/

end Svg

/-- What decides on the tags that a shape is written with. -/
inductive ShapeKind where
  | line (dashed : Bool)
  | rect (filled : Bool)
  | polygon
  | polyline
  | text (anchored : Bool)
  | arrow (dashed : Bool)
  | doubleArrow
  deriving Repr, DecidableEq

def Shape.kind {α : Type} : Shape α → ShapeKind
  | .line _ _ dashed => .line dashed
  | .rect _ _ fill => .rect fill.isSome
  | .polygon _ _ => .polygon
  | .polyline _ _ => .polyline
  | .text _ _ _ anchor => .text anchor.isSome
  | .arrow _ _ style => .arrow (style = .dashed)
  | .doubleArrow _ _ => .doubleArrow

namespace Svg

def strokeNames (dashed : Bool) : List String :=
  ["stroke", "stroke-width"] ++ if dashed then ["stroke-dasharray"] else []

def kindTags : ShapeKind → List Tag
  | .line dashed => [.empty "line" (["x1", "y1", "x2", "y2"] ++ strokeNames dashed)]
  | .rect filled =>
      [.empty "rect" (["x", "y", "width", "height", "fill"] ++
        if filled then ["stroke"] else strokeNames false)]
  | .polygon => [.empty "polygon" ["points", "fill", "stroke"]]
  | .polyline => [.empty "polyline" (["points", "fill"] ++ strokeNames false)]
  | .text anchored =>
      [.opening "text" ((if anchored then ["text-anchor"] else []) ++ ["x", "y", "class"]),
        .closing "text"]
  | .arrow dashed => [.empty "polyline" (["points", "fill"] ++ strokeNames dashed ++ ["marker-end"])]
  | .doubleArrow =>
      [.empty "polyline" (["points", "fill"] ++ strokeNames false ++ ["marker-start", "marker-end"])]

theorem tags_shapeTokens (marker : String) (shape : Shape Float) :
    (shapeTokens marker shape).filterMap Token.tag? = kindTags shape.kind := by
  cases shape with
  | line _ _ dashed => cases dashed <;> rfl
  | rect _ _ fill => cases fill <;> rfl
  | polygon | polyline | doubleArrow => rfl
  | text _ _ _ anchor => cases anchor <;> rfl
  | arrow _ _ style => cases style <;> rfl

def rootTagOf (identified : Bool) : Tag :=
  .opening "svg" ("xmlns" :: (if identified then ["id"] else []) ++ ["width", "height", "viewBox"])

def headTags : List Tag :=
  [.opening "style" [], .closing "style", .opening "defs" [],
    .opening "marker" ["id", "viewBox", "refX", "refY", "markerWidth", "markerHeight", "orient"],
    .empty "path" ["d"], .closing "marker", .closing "defs"] ++ kindTags .polyline ++
    kindTags .polyline

theorem tags_body (root : Option String) (page : Page Float) :
    (body root page).filterMap Token.tag? =
      headTags ++ ((Drawing.ofPage page).map Shape.kind).flatMap kindTags := by
  have newline : [Token.newline].filterMap Token.tag? = [] := rfl
  have drawn : ((Drawing.ofPage page).flatMap fun shape =>
        shapeTokens (markerId root) shape ++ [.newline]).filterMap Token.tag? =
      ((Drawing.ofPage page).map Shape.kind).flatMap kindTags := by
    rw [List.filterMap_flatMap, List.flatMap_map]
    simp only [List.filterMap_append, tags_shapeTokens, newline, List.append_nil]
  rw [body, List.filterMap_append, drawn]
  rfl

/-- The tags of a document follow from whether it has an id and from the kinds of its shapes. -/
theorem tags_document (root : Option String) (page : Page Float) :
    (document root page).filterMap Token.tag? =
      rootTagOf root.isSome ::
        (headTags ++ ((Drawing.ofPage page).map Shape.kind).flatMap kindTags ++
          [.closing "svg"]) := by
  have opened : [Token.declaration, .newline, rootTag root ⟨page.width, page.height⟩].filterMap
      Token.tag? = [rootTagOf root.isSome] := by
    cases root <;> rfl
  rw [document_eq, List.filterMap_append, List.filterMap_append, opened, tags_body]
  rfl

end Svg

end Chronogram
