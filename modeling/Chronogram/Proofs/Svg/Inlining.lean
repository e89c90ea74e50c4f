import Chronogram.Proofs.Svg.Injection

/-!
Documents that share a page.

An id means the first element on the page that has it. A document with an identifier defines two ids,
that of its root element and that of its arrow head, and all its references are to its arrow head. So
each document finds its own arrow head as long as no other document has one of these ids. Different
identifiers do not ensure this: the id of an arrow head is an identifier with a suffix, which may be
the identifier of another document.
-/

namespace Chronogram

namespace Svg

/-! ### Targets and references -/

/-- An element that can be referred to. -/
structure Target where
  element : String
  id : List Char
  deriving Repr, DecidableEq

def Lexeme.attributes : Lexeme → List AttributeText
  | .tag _ attributes _ => attributes
  | _ => []

def Lexeme.targets : Lexeme → List Target
  | .tag name attributes _ =>
      (attributes.filter fun item => item.name = "id").map fun item => ⟨name, item.value⟩
  | _ => []

/-- The elements of a document that have ids, from front to back. -/
def targets (lexemes : List Lexeme) : List Target :=
  lexemes.flatMap Lexeme.targets

def definedIds (lexemes : List Lexeme) : List (List Char) :=
  (targets lexemes).map Target.id

/-- The value of an attribute that refers to an id. -/
def referenceTo (id : List Char) : List Char :=
  'u' :: 'r' :: 'l' :: '(' :: '#' :: (id ++ [')'])

/-- Some attribute of a document refers to an id. -/
def RefersTo (lexemes : List Lexeme) (id : List Char) : Prop :=
  ∃ lexeme ∈ lexemes, ∃ item ∈ lexeme.attributes, item.value = referenceTo id

/-- The first element with an id among the documents of a page, with the place of its document. -/
def resolve? (documents : List (List Lexeme)) (id : List Char) : Option (Nat × Target) :=
  (documents.zipIdx.flatMap fun (lexemes, place) =>
    (targets lexemes).map fun target => (place, target)).find? fun found => found.2.id = id

/-- All references of a document mean the arrow head in the document at its own place on the page. -/
def FindsOwnMarker (documents : List (List Lexeme)) (place : Nat) (lexemes : List Lexeme) : Prop :=
  ∀ id, RefersTo lexemes id → resolve? documents id = some (place, ⟨"marker", id⟩)

/-- If no document in front has an id, it means the first element that has it in this document. -/
theorem resolve?_append (front behind : List (List Lexeme)) {lexemes : List Lexeme}
    {id : List Char} {target : Target}
    (fresh : ∀ other ∈ front, id ∉ definedIds other)
    (first : (targets lexemes).find? (fun target => target.id = id) = some target) :
    resolve? (front ++ lexemes :: behind) id = some (front.length, target) := by
  have unknown : ((front.zipIdx.flatMap fun (lexemes, place) =>
      (targets lexemes).map fun target => (place, target)).find? fun found => found.2.id = id) =
        none := by
    refine List.find?_eq_none.mpr fun found membership same => ?_
    obtain ⟨⟨other, place⟩, stands, inside⟩ := List.mem_flatMap.mp membership
    obtain ⟨defined, among, rfl⟩ := List.mem_map.mp inside
    exact fresh other (List.fst_mem_of_mem_zipIdx stands)
      (List.mem_map.mpr ⟨defined, among, of_decide_eq_true same⟩)
  have here : (((targets lexemes).map fun target => (front.length, target)).find?
      fun found => found.2.id = id) = some (front.length, target) := by
    rw [List.find?_map]
    exact congrArg (Option.map _) first
  rw [resolve?, List.zipIdx_append, List.flatMap_append, List.find?_append, unknown,
    List.zipIdx_cons, List.flatMap_cons, List.find?_append, Nat.zero_add, here]
  rfl

/-! ### Attributes of a document -/

def Token.attributes : Token → List Attribute
  | .startTag _ attributes | .emptyTag _ attributes => attributes
  | .declaration | .endTag _ | .characters _ => []

/-- An attribute without an opening parenthesis in its fixed parts. -/
def Attribute.Unopened (item : Attribute) : Prop :=
  ∀ text, Piece.literal text ∈ item.value → '(' ∉ text.toList

/-- An attribute that refers to the arrow head if it refers to anything. -/
def Attribute.RefersOnlyTo (marker : String) (item : Attribute) : Prop :=
  ∀ scale id, (item.textAt scale).value = referenceTo id → id = marker.toList

theorem opens_referenceTo (id : List Char) : '(' ∈ referenceTo id := by
  simp [referenceTo]

theorem Attribute.Unopened.refersOnlyTo {item : Attribute} (unopened : item.Unopened)
    (marker : String) : item.RefersOnlyTo marker := by
  intro scale id refers
  have opens : '(' ∈ (item.textAt scale).value := refers ▸ opens_referenceTo id
  obtain ⟨piece, stands, written⟩ := List.mem_flatMap.mp opens
  cases piece with
  | literal text => exact absurd written (unopened text stands)
  | scaled value =>
      rw [Piece.chars, Piece.write, String.toList_ofList] at written
      have number := isNumberChar_of_mem_numberText written
      exact absurd number (by unfold IsNumberChar; decide)

theorem unopened_fixed {name value : String} (unopened : '(' ∉ value.toList) :
    (Attribute.fixed name value).Unopened := by
  intro text stands
  obtain rfl : text = value := by simpa [Attribute.fixed] using stands
  exact unopened

theorem unopened_number (name : String) (value : Float) :
    (Attribute.number name value).Unopened := by
  simp [Attribute.Unopened, Attribute.number]

theorem value_textAt_reference (name marker : String) (scale : Float) :
    ((Attribute.fixed name (markerReference marker)).textAt scale).value =
      referenceTo marker.toList := by
  simp [Attribute.textAt, Attribute.fixed, Piece.chars, Piece.write, markerReference, referenceTo]

theorem referenceTo_injective : Function.Injective referenceTo := by
  intro id other same
  simpa [referenceTo] using same

theorem Attribute.Drawn.refersOnlyTo {marker : String} {fill : Option String} {item : Attribute}
    (drawn : item.Drawn marker fill) (colour : ∀ value ∈ fill, '(' ∉ value.toList) :
    item.RefersOnlyTo marker := by
  have words : ∀ value ∈ shapeWords, '(' ∉ value.toList := by decide
  cases drawn with
  | number => exact (unopened_number _ _).refersOnlyTo marker
  | points points =>
      have unopened : (pointsAttribute points).Unopened := by
        intro text stands
        rcases eq_of_literal_mem_points stands with rfl | rfl <;> decide
      exact unopened.refersOnlyTo marker
  | word known plain => exact (unopened_fixed (words _ plain)).refersOnlyTo marker
  | colour used => exact (unopened_fixed (colour _ used)).refersOnlyTo marker
  | reference =>
      intro scale id refers
      rw [value_textAt_reference] at refers
      exact (referenceTo_injective refers).symm

theorem Attribute.Drawn.name_ne_id {marker : String} {fill : Option String} {item : Attribute}
    (drawn : item.Drawn marker fill) : item.name ≠ "id" := by
  have names : ∀ name ∈ shapeNames, name ≠ "id" := by decide
  have referring : ∀ name ∈ referenceNames, name ≠ "id" := by decide
  cases drawn with
  | number known | word known => exact names _ known
  | points => exact names "points" (by decide)
  | colour => exact names "fill" (by decide)
  | reference known => exact referring _ known

/-! ### Targets of a document -/

theorem targets_append (first second : List Lexeme) :
    targets (first ++ second) = targets first ++ targets second :=
  List.flatMap_append

theorem targets_of_isData {lexemes : List Lexeme}
    (data : ∀ lexeme ∈ lexemes, lexeme.isData = true) : targets lexemes = [] := by
  refine List.flatMap_eq_nil_iff.mpr fun lexeme membership => ?_
  have isData := data lexeme membership
  cases lexeme with
  | character | reference => rfl
  | declaration | tag | endTag => cases isData

/-- A token whose attributes are not ids. -/
def Token.Anonymous (token : Token) : Prop :=
  ∀ item ∈ token.attributes, item.name ≠ "id"

theorem filter_textAt_eq_nil {attributes : List Attribute} (scale : Float)
    (anonymous : ∀ item ∈ attributes, item.name ≠ "id") :
    (attributes.map (Attribute.textAt scale)).filter (fun item => item.name = "id") = [] := by
  refine List.filter_eq_nil_iff.mpr fun item membership => ?_
  obtain ⟨item, stands, rfl⟩ := List.mem_map.mp membership
  exact fun same => anonymous item stands (of_decide_eq_true same)

theorem targets_of_anonymous {tokens : List Token} (scale : Float)
    (anonymous : ∀ token ∈ tokens, token.Anonymous) :
    targets (tokens.flatMap (Token.lexemes scale)) = [] := by
  have each : ∀ token ∈ tokens, targets (token.lexemes scale) = [] := by
    intro token membership
    have unnamed := anonymous token membership
    cases token with
    | declaration | endTag => rfl
    | characters content => exact targets_of_isData (isData_dataAfter 0 _)
    | startTag name attributes | emptyTag name attributes =>
        have nothing : ((attributes.map (Attribute.textAt scale)).filter
            fun item => item.name = "id") = [] := filter_textAt_eq_nil scale unnamed
        rw [Token.lexemes, targets, List.flatMap_singleton, Lexeme.targets, nothing, List.map_nil]
  rw [targets, List.flatMap_assoc]
  exact List.flatMap_eq_nil_iff.mpr each

/-- The tag that opens the definition of the arrow head. -/
def markerTag (marker : String) : Token :=
  .startTag "marker"
    [.fixed "id" marker, .fixed "viewBox" "0 0 15 15", .fixed "refX" "15", .fixed "refY" "7.5",
      .fixed "markerWidth" "9", .fixed "markerHeight" "9", .fixed "orient" "auto-start-reverse"]

/-- The tokens of a document between its two tags with ids and behind them. -/
def beforeMarker (root : Option String) : List Token :=
  [.newline, .startTag "style" [], .characters (styleSheet (styleScope root)), .endTag "style",
    .newline, .startTag "defs" []]

def behindMarker (root : Option String) (page : Page Float) : List Token :=
  [.emptyTag "path" [.fixed "d" "M 0 0 L 15 7.5 L 0 15 z"], .endTag "marker", .endTag "defs",
    .newline,
    .emptyTag "polyline" (polylineAttributes (borderPoints ⟨page.width, page.height⟩) borderStroke),
    .newline, .emptyTag "polyline" (polylineAttributes (framePoints page.title.frame) borderStroke),
    .newline] ++
    (Drawing.ofPage page).flatMap (fun shape => shapeTokens (markerId root) shape ++ [.newline]) ++
    footer

theorem document_eq_markerTag (root : Option String) (page : Page Float) :
    document root page =
      [.declaration, .newline] ++ [rootTag root ⟨page.width, page.height⟩] ++ beforeMarker root ++
        [markerTag (markerId root)] ++ behindMarker root page := by
  simp only [document, header, markerTokens, markerTag, beforeMarker, behindMarker,
    List.cons_append, List.nil_append]

theorem attributes_of_mem_beforeMarker {root : Option String} {token : Token}
    (stands : token ∈ beforeMarker root) : token.attributes = [] := by
  simp only [beforeMarker, List.mem_cons, List.not_mem_nil, or_false] at stands
  rcases stands with rfl | rfl | rfl | rfl | rfl | rfl <;> rfl

section Attributes

variable {root : Option String} {page : Page Float}

/-- The attributes behind the tag of the arrow head are its outline and those of shapes. -/
theorem drawn_of_mem_behindMarker {token : Token} (stands : token ∈ behindMarker root page)
    {item : Attribute} (given : item ∈ token.attributes) :
    item = .fixed "d" "M 0 0 L 15 7.5 L 0 15 z" ∨
      ∃ fill, (∀ value ∈ fill, ∃ shape ∈ Drawing.ofPage page, shape.mark.fill? = some value) ∧
        item.Drawn (markerId root) fill := by
  have line : ∀ points, item ∈ polylineAttributes points borderStroke →
      ∃ fill, (∀ value ∈ fill, ∃ shape ∈ Drawing.ofPage page, shape.mark.fill? = some value) ∧
        item.Drawn (markerId root) fill := fun points among =>
    ⟨none, by simp, drawn_polylineAttributes _ _ points borderStroke item among⟩
  rcases List.mem_append.mp stands with early | last
  · rcases List.mem_append.mp early with head | inShapes
    · simp only [List.mem_cons, List.not_mem_nil, or_false] at head
      rcases head with rfl | rfl | rfl | rfl | rfl | rfl | rfl | rfl
      · exact .inl (List.mem_singleton.mp given)
      · cases given
      · cases given
      · cases given
      · exact .inr (line _ given)
      · cases given
      · exact .inr (line _ given)
      · cases given
    · obtain ⟨shape, onPage, among⟩ := List.mem_flatMap.mp inShapes
      rcases List.mem_append.mp among with inShape | newline
      · have element := element_shapeTokens (markerId root) shape
        generalize shapeTokens (markerId root) shape = tokens at element inShape
        refine .inr ⟨shape.mark.fill?, fun value used => ⟨shape, onPage, used⟩, ?_⟩
        cases element with
        | empty known drawn =>
            rw [List.mem_singleton.mp inShape] at given
            exact drawn item given
        | text shown drawn =>
            simp only [List.mem_cons, List.not_mem_nil, or_false] at inShape
            rcases inShape with rfl | rfl | rfl
            · exact drawn item given
            · cases given
            · cases given
      · rw [List.mem_singleton.mp newline] at given
        cases given
  · simp only [footer, List.mem_cons, List.not_mem_nil, or_false] at last
    rcases last with rfl | rfl <;> cases given

theorem targets_document (id : String) (page : Page Float) :
    targets ((document (some id) page).flatMap (Token.lexemes page.scale)) =
      [⟨"svg", id.toList⟩, ⟨"marker", (id ++ "-arrow").toList⟩] := by
  have front : ∀ token ∈ [Token.declaration, .newline], token.Anonymous := by
    simp [Token.Anonymous, Token.attributes, Token.newline, Token.fixed]
  have before : ∀ token ∈ beforeMarker (some id), token.Anonymous := by
    intro token stands
    rw [Token.Anonymous, attributes_of_mem_beforeMarker stands]
    exact List.forall_mem_nil _
  have behind : ∀ token ∈ behindMarker (some id) page, token.Anonymous := by
    intro token stands item given
    rcases drawn_of_mem_behindMarker stands given with rfl | ⟨fill, -, drawn⟩
    · decide
    · exact drawn.name_ne_id
  have root : targets ((rootTag (some id) ⟨page.width, page.height⟩).lexemes page.scale) =
      [⟨"svg", id.toList⟩] := by
    simp [targets, rootTag, Token.lexemes, Lexeme.targets, Attribute.textAt, Attribute.fixed,
      Attribute.number, Piece.chars, Piece.write]
  have marker : targets ((markerTag (markerId (some id))).lexemes page.scale) =
      [⟨"marker", (id ++ "-arrow").toList⟩] := by
    simp [targets, markerTag, markerId, Token.lexemes, Lexeme.targets, Attribute.textAt,
      Attribute.fixed, Piece.chars, Piece.write]
  rw [document_eq_markerTag]
  simp only [List.flatMap_append, targets_append, List.flatMap_singleton, root, marker,
    targets_of_anonymous _ front, targets_of_anonymous _ before, targets_of_anonymous _ behind]
  rfl

theorem refersOnlyTo_fixed {name value : String} (marker : String)
    (unopened : '(' ∉ value.toList) : (Attribute.fixed name value).RefersOnlyTo marker :=
  (unopened_fixed unopened).refersOnlyTo marker

theorem refersOnlyTo_rootTag (identified : ∀ id ∈ root, '(' ∉ id.toList) (marker : String)
    (size : Size Float) : ∀ item ∈ (rootTag root size).attributes, item.RefersOnlyTo marker := by
  have ids : ∀ item ∈ root.toList.map (Attribute.fixed "id" ·), item.RefersOnlyTo marker := by
    intro item membership
    obtain ⟨id, given, rfl⟩ := List.mem_map.mp membership
    exact refersOnlyTo_fixed marker (identified id (Option.mem_toList.mp given))
  have view : Attribute.Unopened
      ⟨"viewBox", [.literal "0 0 ", .scaled size.width, .literal " ", .scaled size.height]⟩ := by
    intro text stands
    have fixed : text = "0 0 " ∨ text = " " := by simpa using stands
    rcases fixed with rfl | rfl <;> decide
  refine List.forall_mem_cons.mpr ⟨refersOnlyTo_fixed marker (by decide), ?_⟩
  refine List.forall_mem_append.mpr ⟨ids, ?_⟩
  simp only [List.forall_mem_cons]
  exact ⟨(unopened_number _ _).refersOnlyTo marker, (unopened_number _ _).refersOnlyTo marker,
    view.refersOnlyTo marker, List.forall_mem_nil _⟩

theorem refersOnlyTo_markerTag {marker : String} (unopened : '(' ∉ marker.toList) :
    ∀ item ∈ (markerTag marker).attributes, item.RefersOnlyTo marker := by
  simp only [markerTag, Token.attributes, List.forall_mem_cons]
  refine ⟨refersOnlyTo_fixed marker unopened, ?_, ?_, ?_, ?_, ?_, ?_, List.forall_mem_nil _⟩ <;>
    exact refersOnlyTo_fixed marker (by decide)

/-- All references of a document are to its arrow head. -/
theorem refersOnlyTo_document (identified : ∀ id ∈ root, '(' ∉ id.toList)
    (colours : ∀ shape ∈ Drawing.ofPage page, ∀ value ∈ shape.mark.fill?, '(' ∉ value.toList)
    {token : Token} (stands : token ∈ document root page) :
    ∀ item ∈ token.attributes, item.RefersOnlyTo (markerId root) := by
  have unopened : '(' ∉ (markerId root).toList := by
    cases root with
    | none => decide
    | some id =>
        rw [markerId, String.toList_append, List.mem_append]
        exact not_or.mpr ⟨identified id rfl, by decide⟩
  simp only [document_eq_markerTag, List.mem_append, List.mem_cons, List.not_mem_nil,
    or_false] at stands
  rcases stands with ((((rfl | rfl) | rfl) | before) | rfl) | behind
  · exact List.forall_mem_nil _
  · exact List.forall_mem_nil _
  · exact refersOnlyTo_rootTag identified _ _
  · rw [attributes_of_mem_beforeMarker before]
    exact List.forall_mem_nil _
  · exact refersOnlyTo_markerTag unopened
  · intro item given
    rcases drawn_of_mem_behindMarker behind given with rfl | ⟨fill, known, drawn⟩
    · exact refersOnlyTo_fixed _ (by decide)
    · refine drawn.refersOnlyTo fun value used => ?_
      obtain ⟨shape, onPage, own⟩ := known value used
      exact colours shape onPage value own

theorem eq_of_refersTo {id : List Char} (identified : ∀ id ∈ root, '(' ∉ id.toList)
    (colours : ∀ shape ∈ Drawing.ofPage page, ∀ value ∈ shape.mark.fill?, '(' ∉ value.toList)
    (refers : RefersTo ((document root page).flatMap (Token.lexemes page.scale)) id) :
    id = (markerId root).toList := by
  obtain ⟨lexeme, stands, item, given, value⟩ := refers
  obtain ⟨token, inDocument, written⟩ := List.mem_flatMap.mp stands
  have only := refersOnlyTo_document identified colours inDocument
  cases token with
  | declaration | endTag =>
      rw [List.mem_singleton.mp written] at given
      cases given
  | characters content =>
      have isData := isData_dataAfter 0 _ lexeme written
      cases lexeme with
      | character | reference => cases given
      | declaration | tag | endTag => cases isData
  | startTag name attributes | emptyTag name attributes =>
      rw [List.mem_singleton.mp written] at given
      obtain ⟨source, among, rfl⟩ := List.mem_map.mp given
      exact only source among page.scale id value

/-- A document with an arrow or a span refers to its arrow head. -/
theorem refersTo_of_isPointed {shape : Shape Float} (drawn : shape ∈ Drawing.ofPage page)
    (pointed : shape.mark.isPointed = true) :
    RefersTo ((document root page).flatMap (Token.lexemes page.scale)) (markerId root).toList := by
  obtain ⟨name, attributes, written, refers⟩ : ∃ name attributes,
      shapeTokens (markerId root) shape = [.emptyTag name attributes] ∧
        .fixed "marker-end" (markerReference (markerId root)) ∈ attributes := by
    cases shape with
    | arrow | doubleArrow => exact ⟨_, _, rfl, by simp⟩
    | line | rect | polygon | polyline | text => cases pointed
  have inDocument : Token.emptyTag name attributes ∈ document root page := by
    refine List.mem_append_left _ (List.mem_append_right _ (List.mem_flatMap.mpr ⟨shape, drawn, ?_⟩))
    rw [written]
    exact List.mem_cons_self
  refine ⟨.tag name (attributes.map (Attribute.textAt page.scale)) true,
    List.mem_flatMap.mpr ⟨_, inDocument, List.mem_singleton.mpr rfl⟩, _,
    List.mem_map_of_mem refers, value_textAt_reference _ _ _⟩

end Attributes

theorem Identifier.unopened_ofText (raw : String) : '(' ∉ (Identifier.ofText raw).toList := by
  intro opens
  rw [Identifier.ofText, String.toList_ofList] at opens
  exact absurd (Identifier.isKept_of_mem_ofChars opens) (by decide)

/-- A document that defines the ids of an identifier and refers to its own arrow head at most. -/
structure Owned (id : String) (lexemes : List Lexeme) : Prop where
  targets : targets lexemes = [⟨"svg", id.toList⟩, ⟨"marker", (id ++ "-arrow").toList⟩]
  refers : ∀ other, RefersTo lexemes other → other = (id ++ "-arrow").toList

section Owned

variable {id other : String} {lexemes others : List Lexeme}

theorem Owned.definedIds (owned : Owned id lexemes) :
    definedIds lexemes = [id.toList, (id ++ "-arrow").toList] := by
  rw [Svg.definedIds, owned.targets]
  rfl

theorem ne_append_arrow (id : String) : id ≠ id ++ "-arrow" := by
  intro same
  have longer := congrArg String.length same
  simp at longer

theorem append_arrow_injective : Function.Injective fun id : String => id ++ "-arrow" := by
  intro id other same
  have characters := congrArg String.toList same
  simp only [String.toList_append] at characters
  exact String.toList_injective (List.append_cancel_right characters)

/-- The ids of two documents are distinct unless one of their identifiers is the id of the other one's
arrow head. -/
theorem Owned.nodup_iff (owned : Owned id lexemes) (owned' : Owned other others)
    (differ : id ≠ other) :
    (Svg.definedIds lexemes ++ Svg.definedIds others).Nodup ↔
      id ≠ other ++ "-arrow" ∧ other ≠ id ++ "-arrow" := by
  have own := ne_append_arrow id
  have own' := ne_append_arrow other
  have heads : id ++ "-arrow" ≠ other ++ "-arrow" := append_arrow_injective.ne differ
  simp only [owned.definedIds, owned'.definedIds, List.cons_append, List.nil_append,
    List.nodup_cons, List.mem_cons, List.not_mem_nil, or_false, not_or, List.nodup_nil, and_true,
    not_false_eq_true, String.toList_inj]
  constructor
  · rintro ⟨⟨-, -, apart⟩, ⟨apart', -⟩, -⟩
    exact ⟨apart, Ne.symm apart'⟩
  · rintro ⟨apart, apart'⟩
    exact ⟨⟨own, differ, apart⟩, ⟨Ne.symm apart', heads⟩, own'⟩

/-- In a document that no other one in front disturbs, a reference means the arrow head. -/
theorem Owned.findsOwnMarker (owned : Owned id lexemes) (front behind : List (List Lexeme))
    (fresh : ∀ before ∈ front, (id ++ "-arrow").toList ∉ Svg.definedIds before) :
    FindsOwnMarker (front ++ lexemes :: behind) front.length lexemes := by
  intro name refers
  obtain rfl := owned.refers name refers
  refine resolve?_append front behind fresh ?_
  simp [owned.targets]

/-- A document whose identifier is the id of an arrow head takes its references. -/
theorem Owned.captures (owned : Owned id lexemes) (owned' : Owned other others)
    (captured : id = other ++ "-arrow") {name : List Char} (refers : RefersTo others name) :
    resolve? [lexemes, others] name = some (0, ⟨"svg", name⟩) := by
  obtain rfl := owned'.refers name refers
  refine resolve?_append [] [others] (List.forall_mem_nil _) ?_
  rw [owned.targets, captured]
  simp

end Owned

theorem owned_document {id : String} {page : Page Float} (unopened : '(' ∉ id.toList)
    (colours : ∀ shape ∈ Drawing.ofPage page, ∀ value ∈ shape.mark.fill?, '(' ∉ value.toList) :
    Owned id ((document (some id) page).flatMap (Token.lexemes page.scale)) := by
  have plain : ∀ root ∈ some id, '(' ∉ root.toList := by
    rintro _ ⟨⟩
    exact unopened
  exact ⟨targets_document id page, fun _ refers => eq_of_refersTo plain colours refers⟩

end Svg

/-! ### Documents of texts -/

namespace Settings

def identifiedBy (settings : Settings) (raw : String) : Settings :=
  { settings with rootId := some (Svg.Identifier.ofText raw) }

variable {settings : Settings} {raw text document : String}

theorem splits_of_svg (rendered : (settings.identifiedBy raw).svg text = .ok document) :
    ∃ draft page, (settings.identifiedBy raw).draft text = .ok draft ∧
      Page.Shows draft.diagram.timeline page ∧
      Svg.Splits document ((Svg.document (some (Svg.Identifier.ofText raw)) page).flatMap
        (Svg.Token.lexemes page.scale)) := by
  obtain ⟨draft, page, parsed, laidOut, rfl⟩ := of_svg rendered
  have shows := Page.shows_of_layout laidOut
  have identified : Svg.Identified (some (Svg.Identifier.ofText raw)) := by
    rintro _ ⟨⟩
    exact Svg.Identifier.unreserved_ofText raw
  have sound := Drawing.sound_ofPage ((settings.identifiedBy raw).wellBuilt_draft parsed) shows
  exact ⟨draft, page, parsed, shows,
    Svg.splits_writeTokens (Svg.sound_document identified sound) page.scale⟩

/-- A document that is rendered with an identifier owns the ids of its identifier. -/
theorem owned_of_svg (rendered : (settings.identifiedBy raw).svg text = .ok document) :
    ∃ lexemes, Svg.Splits document lexemes ∧ Svg.Owned (Svg.Identifier.ofText raw) lexemes := by
  obtain ⟨draft, page, parsed, shows, splits⟩ := splits_of_svg rendered
  have named := (settings.identifiedBy raw).named_draft parsed
  refine ⟨_, splits, Svg.owned_document (Svg.Identifier.unopened_ofText raw) ?_⟩
  have plain : ∀ colour ∈ Drawing.busFill :: palette, '(' ∉ colour.toList := by decide
  intro shape drawn value used
  exact plain value ((Drawing.known_ofPage named shows shape drawn).fill value used)

theorem refersTo_of_svg (rendered : (settings.identifiedBy raw).svg text = .ok document)
    {draft : Draft} (parsed : (settings.identifiedBy raw).draft text = .ok draft) {span : Span}
    (spanned : span ∈ draft.diagram.spans) {lexemes : List Svg.Lexeme}
    (splits : Svg.Splits document lexemes) :
    Svg.RefersTo lexemes (Svg.Identifier.ofText raw ++ "-arrow").toList := by
  obtain ⟨read, page, parsedAgain, shows, split⟩ := splits_of_svg rendered
  obtain rfl : draft = read := Except.ok.inj (parsed.symm.trans parsedAgain)
  have shown : .doubleArrow ∈ (Drawing.ofPage page).map Shape.mark := by
    rw [Drawing.marks_ofPage ((settings.identifiedBy raw).named_draft parsed) shows]
    simp only [Timeline.marks, List.mem_append, List.mem_flatMap]
    exact .inl (.inl (.inr ⟨span, spanned, List.mem_cons_self⟩))
  obtain ⟨shape, drawn, same⟩ := List.mem_map.mp shown
  rw [splits.unique split]
  exact Svg.refersTo_of_isPointed drawn (by rw [same]; rfl)

end Settings

namespace Svg

/-- Documents with different identifiers can share a page, in either order, unless one of the
identifiers is the id of the arrow head of the other document: then their ids are distinct, and every
reference means the arrow head of its own document. If an identifier is the id of an arrow head, a
document in front takes the references of the other one. -/
theorem documents_share_page (settings settings' : Settings) (raw raw' text text' : String)
    (document document' : String)
    (rendered : (settings.identifiedBy raw).svg text = .ok document)
    (rendered' : (settings'.identifiedBy raw').svg text' = .ok document')
    (differ : Identifier.ofText raw ≠ Identifier.ofText raw') :
    ∃ lexemes lexemes', Splits document lexemes ∧ Splits document' lexemes' ∧
      definedIds lexemes =
        [(Identifier.ofText raw).toList, (Identifier.ofText raw ++ "-arrow").toList] ∧
      definedIds lexemes' =
        [(Identifier.ofText raw').toList, (Identifier.ofText raw' ++ "-arrow").toList] ∧
      ((definedIds lexemes ++ definedIds lexemes').Nodup ↔
        Identifier.ofText raw ≠ Identifier.ofText raw' ++ "-arrow" ∧
          Identifier.ofText raw' ≠ Identifier.ofText raw ++ "-arrow") ∧
      ((definedIds lexemes ++ definedIds lexemes').Nodup →
        FindsOwnMarker [lexemes, lexemes'] 0 lexemes ∧
          FindsOwnMarker [lexemes, lexemes'] 1 lexemes' ∧
          FindsOwnMarker [lexemes', lexemes] 0 lexemes' ∧
          FindsOwnMarker [lexemes', lexemes] 1 lexemes) ∧
      (Identifier.ofText raw' = Identifier.ofText raw ++ "-arrow" → ∀ id, RefersTo lexemes id →
        resolve? [lexemes', lexemes] id = some (0, ⟨"svg", id⟩)) := by
  obtain ⟨lexemes, splits, owned⟩ := Settings.owned_of_svg rendered
  obtain ⟨lexemes', splits', owned'⟩ := Settings.owned_of_svg rendered'
  refine ⟨lexemes, lexemes', splits, splits', owned.definedIds, owned'.definedIds,
    owned.nodup_iff owned' differ, ?_, fun captured id refers => owned'.captures owned captured refers⟩
  intro distinct
  have apart := List.disjoint_of_nodup_append distinct
  have fresh : (Identifier.ofText raw ++ "-arrow").toList ∉ definedIds lexemes' :=
    apart (by simp [owned.definedIds])
  have fresh' : (Identifier.ofText raw' ++ "-arrow").toList ∉ definedIds lexemes :=
    fun shared => apart shared (by simp [owned'.definedIds])
  refine ⟨?_, ?_, ?_, ?_⟩
  · exact owned.findsOwnMarker [] [lexemes'] (List.forall_mem_nil _)
  · exact owned'.findsOwnMarker [lexemes] [] (List.forall_mem_singleton.mpr fresh')
  · exact owned'.findsOwnMarker [] [lexemes] (List.forall_mem_nil _)
  · exact owned.findsOwnMarker [lexemes'] [] (List.forall_mem_singleton.mpr fresh)

/-- Two diagrams with arrow heads, and their documents under some identifiers. -/
theorem exists_documents (raw raw' : String) :
    ∃ document document',
      (Settings.standard.identifiedBy raw).svg
        (worded "Tea" "kettle" "on" "wait" "pour").source = .ok document ∧
      (Settings.standard.identifiedBy raw').svg hostileDiagram.source = .ok document' ∧
      ∀ lexemes, Splits document lexemes →
        RefersTo lexemes (Identifier.ofText raw ++ "-arrow").toList := by
  have printable : (worded "Tea" "kettle" "on" "wait" "pour").Printable := by decide
  have printable' : hostileDiagram.Printable := by decide
  have fine : ((worded "Tea" "kettle" "on" "wait" "pour").markup
      Settings.standard.site).timeline.faults = [] := by decide +kernel
  have fine' : (hostileDiagram.markup Settings.standard.site).timeline.faults = [] := by
    decide +kernel
  obtain ⟨parsed, document, rendered⟩ := (Settings.standard.identifiedBy raw).exists_svg_source
    printable (Timeline.faults_eq_nil_iff.mp fine)
  obtain ⟨-, document', rendered'⟩ := (Settings.standard.identifiedBy raw').exists_svg_source
    printable' (Timeline.faults_eq_nil_iff.mp fine')
  exact ⟨document, document', rendered, rendered', fun lexemes splits =>
    Settings.refersTo_of_svg rendered parsed List.mem_cons_self splits⟩

theorem tea_shares_page :
    ∃ document document' lexemes lexemes',
      (Settings.standard.identifiedBy "tea").svg
        (worded "Tea" "kettle" "on" "wait" "pour").source = .ok document ∧
      (Settings.standard.identifiedBy "tea time").svg hostileDiagram.source = .ok document' ∧
      Splits document lexemes ∧ Splits document' lexemes' ∧
      RefersTo lexemes "tea-arrow".toList ∧
      FindsOwnMarker [lexemes, lexemes'] 0 lexemes ∧
      FindsOwnMarker [lexemes', lexemes] 1 lexemes := by
  have tea : Identifier.ofText "tea" = "tea" := by decide +kernel
  have time : Identifier.ofText "tea time" = "tea-time" := by decide +kernel
  obtain ⟨document, document', rendered, rendered', refers⟩ := exists_documents "tea" "tea time"
  obtain ⟨lexemes, lexemes', splits, splits', -, -, distinct, found, -⟩ :=
    documents_share_page Settings.standard Settings.standard "tea" "tea time" _ _ document document'
      rendered rendered' (by rw [tea, time]; decide)
  obtain ⟨first, -, -, second⟩ := found (distinct.mpr (by rw [tea, time]; decide))
  have arrow : RefersTo lexemes ("tea" ++ "-arrow").toList := tea ▸ refers lexemes splits
  exact ⟨document, document', lexemes, lexemes', rendered, rendered', splits, splits', arrow, first,
    second⟩

/-- Different identifiers are not enough: the identifier of the second document is the id of the arrow
head of the first one, and in front of it takes its references. -/
theorem suffixed_identifier_captures :
    ∃ document document' lexemes lexemes',
      Identifier.ofText "a" ≠ Identifier.ofText "a-arrow" ∧
      (Settings.standard.identifiedBy "a").svg
        (worded "Tea" "kettle" "on" "wait" "pour").source = .ok document ∧
      (Settings.standard.identifiedBy "a-arrow").svg hostileDiagram.source = .ok document' ∧
      Splits document lexemes ∧ Splits document' lexemes' ∧
      ¬(definedIds lexemes ++ definedIds lexemes').Nodup ∧
      RefersTo lexemes "a-arrow".toList ∧
      resolve? [lexemes', lexemes] "a-arrow".toList = some (0, ⟨"svg", "a-arrow".toList⟩) := by
  have plain : Identifier.ofText "a" = "a" := by decide +kernel
  have suffixed : Identifier.ofText "a-arrow" = "a-arrow" := by decide +kernel
  obtain ⟨document, document', rendered, rendered', refers⟩ := exists_documents "a" "a-arrow"
  obtain ⟨lexemes, splits, owned⟩ := Settings.owned_of_svg rendered
  obtain ⟨lexemes', splits', owned'⟩ := Settings.owned_of_svg rendered'
  rw [plain] at owned
  rw [suffixed] at owned'
  have arrow : RefersTo lexemes ("a" ++ "-arrow").toList := plain ▸ refers lexemes splits
  have shared : ¬(definedIds lexemes ++ definedIds lexemes').Nodup := by
    rw [owned.nodup_iff owned' (by decide)]
    exact fun apart => apart.2 rfl
  exact ⟨document, document', lexemes, lexemes', by rw [plain, suffixed]; decide, rendered,
    rendered', splits, splits', shared, arrow, owned'.captures owned rfl arrow⟩

end Svg

end Chronogram
