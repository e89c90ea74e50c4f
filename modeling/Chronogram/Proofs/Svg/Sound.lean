import Chronogram.Proofs.Svg.Elements
import Chronogram.Proofs.Svg.Nesting

/-!
The tokens of a document are sound.

All names that documents use are known. The values of attributes are fixed, or they hold numbers,
colours and the id of the root element; character data holds the style sheet and the texts of the
shapes. So a document splits into lexemes, and they have the form of a document, as soon as the id
is an identifier and the texts and colours of its shapes are harmless.
-/

namespace Chronogram

/-- The colour and the text of a shape are harmless where they stand. -/
def Shape.Sound {α : Type} : Shape α → Prop
  | .rect _ _ fill => ∀ color ∈ fill, Svg.Unreserved color.toList
  | .polygon _ fill => Svg.Unreserved fill.toList
  | .text _ _ content _ => Markup.Safe content.toList
  | .line .. | .polyline .. | .arrow .. | .doubleArrow .. => True

namespace Svg

/-- The id of the root element has no reserved characters. -/
def Identified (root : Option String) : Prop :=
  ∀ id ∈ root, Unreserved id.toList

theorem sound_fixed {name value : String} (known : name ∈ attributeNames)
    (unreserved : Unreserved value.toList) : (Attribute.fixed name value).Sound where
  name := known
  value := by
    intro text stands
    obtain rfl : text = value := by simpa [Attribute.fixed] using stands
    exact unreserved.isValueChar

theorem sound_number {name : String} (known : name ∈ attributeNames) (value : Float) :
    (Attribute.number name value).Sound where
  name := known
  value := by simp [Attribute.number]

theorem sound_pointsAttribute (points : List (Point Float)) : (pointsAttribute points).Sound where
  name := by simp [pointsAttribute, attributeNames]
  value := by
    intro text stands
    have harmless : Unreserved text.toList := by
      rcases eq_of_literal_mem_points stands with rfl | rfl <;> decide
    exact harmless.isValueChar

theorem sound_append {first second : List Attribute} (sound : ∀ item ∈ first, item.Sound)
    (sound' : ∀ item ∈ second, item.Sound) : ∀ item ∈ first ++ second, item.Sound :=
  List.forall_mem_append.mpr ⟨sound, sound'⟩

theorem sound_emptyTag {name : String} {attributes : List Attribute} (known : name ∈ elementNames)
    (sound : ∀ item ∈ attributes, item.Sound) :
    ∀ token ∈ [Token.emptyTag name attributes], token.Sound :=
  List.forall_mem_singleton.mpr ⟨known, sound⟩

theorem sound_element (name : String) (attributes : List Attribute) {inside : List Token}
    (known : name ∈ elementNames) (sound : ∀ item ∈ attributes, item.Sound)
    (soundInside : ∀ token ∈ inside, token.Sound) :
    ∀ token ∈ Token.startTag name attributes :: inside ++ [.endTag name], token.Sound := by
  intro token membership
  rcases List.mem_append.mp membership with before | last
  · rcases List.mem_cons.mp before with rfl | within
    · exact ⟨known, sound⟩
    · exact soundInside token within
  · rw [List.mem_singleton.mp last]
    exact known

theorem unreserved_markerReference {marker : String} (unreserved : Unreserved marker.toList) :
    Unreserved (markerReference marker).toList := by
  have opened : Unreserved "url(#".toList := by decide
  exact (opened.appendText unreserved).appendText (by decide)

theorem Attribute.Drawn.sound {marker : String} {fill : Option String} {item : Attribute}
    (drawn : item.Drawn marker fill) (unreserved : Unreserved marker.toList)
    (colour : ∀ value ∈ fill, Unreserved value.toList) : item.Sound := by
  have known : ∀ name ∈ shapeNames, name ∈ attributeNames := by decide
  have plain : ∀ value ∈ shapeWords, Unreserved value.toList := by decide
  have referring : ∀ name ∈ referenceNames, name ∈ attributeNames := by decide
  cases drawn with
  | number name value => exact sound_number (known _ name) value
  | points points => exact sound_pointsAttribute points
  | word name value => exact sound_fixed (known _ name) (plain _ value)
  | colour used => exact sound_fixed (by decide) (colour _ used)
  | reference name => exact sound_fixed (referring _ name) (unreserved_markerReference unreserved)

theorem sound_fill {shape : Shape Float} (sound : shape.Sound) :
    ∀ value ∈ shape.mark.fill?, Unreserved value.toList := by
  cases shape with
  | rect => exact sound
  | polygon points fill =>
      rintro value ⟨⟩
      exact sound
  | line | polyline | text | arrow | doubleArrow => simp [Shape.mark, Mark.fill?]

theorem sound_shapeTokens {marker : String} (unreserved : Unreserved marker.toList)
    {shape : Shape Float} (sound : shape.Sound) :
    ∀ token ∈ shapeTokens marker shape, token.Sound := by
  have element := element_shapeTokens marker shape
  generalize shapeTokens marker shape = tokens at element
  cases element with
  | empty known drawn =>
      exact sound_emptyTag known fun item stands => (drawn item stands).sound unreserved (sound_fill sound)
  | @text content attributes shown drawn =>
      have written : (Token.fixed content).Sound := by
        intro text stands
        obtain rfl : text = content := by simpa [Token.fixed] using stands
        cases shape with
        | text =>
            obtain rfl := Option.some.inj shown
            exact sound
        | line | rect | polygon | polyline | arrow | doubleArrow => cases shown
      exact sound_element "text" _ (by decide)
        (fun item stands => (drawn item stands).sound unreserved (sound_fill sound))
        (List.forall_mem_singleton.mpr written)

/-! ### The header -/

theorem unreserved_markerId {root : Option String} (identified : Identified root) :
    Unreserved (markerId root).toList := by
  cases root with
  | none => decide
  | some id =>
      have plain : Unreserved id.toList := identified id rfl
      exact plain.appendText (by decide)

theorem unreserved_styleScope {root : Option String} (identified : Identified root) :
    Unreserved (styleScope root).toList := by
  cases root with
  | none => decide
  | some id =>
      have mark : Unreserved "#".toList := by decide
      exact (mark.appendText (identified id rfl)).appendText (by decide)

theorem unreserved_styleSheet {scope text : String} (unreserved : Unreserved scope.toList)
    (stands : Piece.literal text ∈ styleSheet scope) : Unreserved text.toList := by
  have indented : Unreserved ("  " ++ scope).toList := Unreserved.appendText (by decide) unreserved
  simp only [styleSheet, roleRule, List.cons_append, List.mem_cons, List.mem_append,
    List.mem_flatMap, Piece.literal.injEq, List.not_mem_nil, or_false, reduceCtorEq, false_or]
    at stands
  rcases stands with rfl | ⟨role, -, rfl | rfl⟩ | rfl
  · decide
  · have named : Unreserved role.name.toList := by cases role <;> decide
    have dotted := (indented.appendText (by decide : Unreserved ".".toList)).appendText named
    have opened := dotted.appendText (by decide : Unreserved " \x7b font-family: ".toList)
    have family := opened.appendText (by decide : Unreserved fontFamily.toList)
    exact family.appendText (by decide)
  · cases role <;> decide
  · exact indented.appendText (by decide)

theorem sound_markerTokens {marker : String} (unreserved : Unreserved marker.toList) :
    ∀ token ∈ markerTokens marker, token.Sound := by
  have attributes : ∀ item ∈ [Attribute.fixed "id" marker, .fixed "viewBox" "0 0 15 15",
      .fixed "refX" "15", .fixed "refY" "7.5", .fixed "markerWidth" "9", .fixed "markerHeight" "9",
      .fixed "orient" "auto-start-reverse"], item.Sound := by
    simp only [List.forall_mem_cons]
    exact ⟨sound_fixed (by decide) unreserved, sound_fixed (by decide) (by decide),
      sound_fixed (by decide) (by decide), sound_fixed (by decide) (by decide),
      sound_fixed (by decide) (by decide), sound_fixed (by decide) (by decide),
      sound_fixed (by decide) (by decide), by simp⟩
  have path : ∀ token ∈ [Token.emptyTag "path" [.fixed "d" "M 0 0 L 15 7.5 L 0 15 z"]],
      token.Sound :=
    sound_emptyTag (by decide) (List.forall_mem_singleton.mpr (sound_fixed (by decide) (by decide)))
  exact sound_element "defs" [] (by decide) (by simp)
    (sound_element "marker" _ (by decide) attributes path)

theorem sound_rootTag {root : Option String} (identified : Identified root) (size : Size Float) :
    (rootTag root size).Sound := by
  have space : Attribute.Sound (.fixed "xmlns" "http://www.w3.org/2000/svg") :=
    sound_fixed (by decide) (by decide)
  have ids : ∀ item ∈ root.toList.map (Attribute.fixed "id" ·), item.Sound := by
    cases root with
    | none => simp
    | some id => exact List.forall_mem_singleton.mpr (sound_fixed (by decide) (identified id rfl))
  have view : Attribute.Sound
      ⟨"viewBox", [.literal "0 0 ", .scaled size.width, .literal " ", .scaled size.height]⟩ := by
    refine ⟨by simp [attributeNames], fun text stands => ?_⟩
    have fixed : text = "0 0 " ∨ text = " " := by simpa using stands
    have harmless : Unreserved text.toList := by rcases fixed with rfl | rfl <;> decide
    exact harmless.isValueChar
  refine ⟨by decide, List.forall_mem_cons.mpr ⟨space, sound_append ids ?_⟩⟩
  simp only [List.forall_mem_cons]
  exact ⟨sound_number (by decide) _, sound_number (by decide) _, view, by simp⟩

theorem sound_newline : Token.newline.Sound := by
  intro text stands
  obtain rfl : text = "\n" := by simpa [Token.newline, Token.fixed] using stands
  exact Unreserved.safe (by decide)

theorem sound_body {root : Option String} (identified : Identified root) {page : Page Float}
    (sound : ∀ shape ∈ Drawing.ofPage page, shape.Sound) :
    ∀ token ∈ body root page, token.Sound := by
  have newline : ∀ token ∈ [Token.newline], token.Sound :=
    List.forall_mem_singleton.mpr sound_newline
  have sheet : (Token.characters (styleSheet (styleScope root))).Sound := fun text stands =>
    (unreserved_styleSheet (unreserved_styleScope identified) stands).safe
  have style := sound_element "style" [] (by decide) (by simp) (List.forall_mem_singleton.mpr sheet)
  have marker := unreserved_markerId identified
  have line : ∀ points width,
      ∀ token ∈ [Token.emptyTag "polyline" (polylineAttributes points width)], token.Sound :=
    fun points width => sound_emptyTag (by decide) fun item stands =>
      (drawn_polylineAttributes (markerId root) none points width item stands).sound marker (by simp)
  have shapes : ∀ token ∈ (Drawing.ofPage page).flatMap fun shape =>
      shapeTokens (markerId root) shape ++ [.newline], token.Sound := by
    intro token membership
    obtain ⟨shape, drawn, among⟩ := List.mem_flatMap.mp membership
    rcases List.mem_append.mp among with inShape | last
    · exact sound_shapeTokens marker (sound shape drawn) token inShape
    · exact newline token last
  unfold body
  simp only [List.forall_mem_append]
  exact ⟨⟨⟨⟨⟨⟨⟨⟨⟨newline, style⟩, newline⟩, sound_markerTokens marker⟩, newline⟩, line _ _⟩,
    newline⟩, line _ _⟩, newline⟩, shapes⟩

theorem sound_document {root : Option String} (identified : Identified root) {page : Page Float}
    (sound : ∀ shape ∈ Drawing.ofPage page, shape.Sound) :
    ∀ token ∈ document root page, token.Sound := by
  have front : ∀ token ∈ [.declaration, .newline, rootTag root ⟨page.width, page.height⟩],
      token.Sound := by
    simp only [List.forall_mem_cons]
    exact ⟨trivial, sound_newline, sound_rootTag identified _, by simp⟩
  have last : ∀ token ∈ footer, token.Sound := by
    have closed : (Token.endTag "svg").Sound := (by decide : "svg" ∈ elementNames)
    exact List.forall_mem_cons.mpr ⟨closed, List.forall_mem_singleton.mpr sound_newline⟩
  rw [document_eq]
  simp only [List.forall_mem_append]
  exact ⟨⟨front, sound_body identified sound⟩, last⟩

/-- There is no other root element inside the root element. -/
theorem name_ne_svg_of_mem_body (root : Option String) (page : Page Float) :
    ∀ tag ∈ (body root page).filterMap Token.tag?, tag.name ≠ "svg" := by
  have head : ∀ tag ∈ headTags, tag.name ≠ "svg" := by decide
  have drawn : ∀ kind, ∀ tag ∈ kindTags kind, tag.name ≠ "svg" := by
    intro kind
    cases kind with
    | line flag | rect flag | text flag | arrow flag => cases flag <;> decide
    | polygon | polyline | doubleArrow => decide
  rw [tags_body]
  refine List.forall_mem_append.mpr ⟨head, fun tag membership => ?_⟩
  obtain ⟨kind, -, among⟩ := List.mem_flatMap.mp membership
  exact drawn kind tag among

theorem lexemes_newline (scale : Float) : Token.newline.lexemes scale = [.character '\n'] := by
  have unreferenced : referenceAt? ['\n'] = none := by decide
  simp [Token.newline, Token.fixed, Token.lexemes, Piece.chars, Piece.write, dataAfter, unreferenced]

/-- The document of a page splits into lexemes, and they have the form of a document. -/
theorem splits_render {root : Option String} (identified : Identified root) {page : Page Float}
    (sound : ∀ shape ∈ Drawing.ofPage page, shape.Sound) :
    ∃ lexemes, Splits (render root page) lexemes ∧ IsDocument lexemes ∧
      tags lexemes = (document root page).filterMap Token.tag? := by
  refine ⟨_, splits_writeTokens (sound_document identified sound) page.scale, ?_,
    tags_flatMap_lexemes page.scale _⟩
  obtain ⟨attributes, rooted⟩ :
      ∃ attributes, rootTag root ⟨page.width, page.height⟩ = .startTag "svg" attributes := ⟨_, rfl⟩
  refine ⟨attributes.map (Attribute.textAt page.scale),
    (body root page).flatMap (Token.lexemes page.scale), nested_body root page, ?_, ?_⟩
  · rw [tags_flatMap_lexemes]
    exact name_ne_svg_of_mem_body root page
  · simp only [document_eq, rooted, footer, List.flatMap_append, List.flatMap_cons, lexemes_newline]
    simp [Token.lexemes]

end Svg

end Chronogram
