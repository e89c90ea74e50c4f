import Chronogram.Proofs.Svg.Lexeme
import Chronogram.Proofs.Svg.Marks
import Chronogram.Svg.Document

/-!
The elements that shapes are written as.

A shape becomes one empty element, or an element with its text inside. Its attributes are numbers,
points, a few fixed words, its colour, and references to the arrow head; nothing else of the shape
enters them.
-/

namespace Chronogram

namespace Svg

theorem mem_or_eq_of_mem_intersperse {α : Type} {items : List α} {separator item : α}
    (membership : item ∈ items.intersperse separator) : item ∈ items ∨ item = separator := by
  fun_induction List.intersperse separator items with
  | case1 => exact .inl membership
  | case2 => exact .inl membership
  | case3 first rest _ inductionHypothesis =>
      rcases List.mem_cons.mp membership with rfl | behind
      · exact .inl List.mem_cons_self
      rcases List.mem_cons.mp behind with rfl | further
      · exact .inr rfl
      · exact (inductionHypothesis further).imp_left (List.mem_cons_of_mem first)

/-- Between the numbers of points stand commas and blanks. -/
theorem eq_of_literal_mem_points {points : List (Point Float)} {text : String}
    (stands : Piece.literal text ∈ pointListPieces points) : text = "," ∨ text = " " := by
  obtain ⟨pieces, among, here⟩ := List.mem_flatten.mp stands
  rcases mem_or_eq_of_mem_intersperse among with point | rfl
  · obtain ⟨p, -, rfl⟩ := List.mem_map.mp point
    exact .inl (by simpa [pointPieces] using here)
  · exact .inr (by simpa using here)

/-- The names of the attributes of shapes, apart from those that refer to the arrow head. -/
def shapeNames : List String :=
  ["points", "fill", "stroke", "stroke-width", "stroke-dasharray", "x", "y", "width", "height", "x1",
    "y1", "x2", "y2", "text-anchor", "class"]

def referenceNames : List String :=
  ["marker-start", "marker-end"]

def shapeWords : List String :=
  ["black", "none", "start", "middle", "end", "title", "lifeline-label", "state-label", "legend"]

/-- The attributes that a shape of a colour can have. -/
inductive Attribute.Drawn (marker : String) (fill : Option String) : Attribute → Prop where
  | number {name : String} (known : name ∈ shapeNames) (value : Float) :
      Drawn marker fill (.number name value)
  | points (points : List (Point Float)) : Drawn marker fill (pointsAttribute points)
  | word {name value : String} (known : name ∈ shapeNames) (plain : value ∈ shapeWords) :
      Drawn marker fill (.fixed name value)
  | colour {value : String} (used : fill = some value) : Drawn marker fill (.fixed "fill" value)
  | reference {name : String} (known : name ∈ referenceNames) :
      Drawn marker fill (.fixed name (markerReference marker))

section Drawn

variable (marker : String) (fill : Option String)

theorem drawn_strokeAttributes (width : Float) :
    ∀ item ∈ strokeAttributes width, item.Drawn marker fill := by
  refine List.forall_mem_cons.mpr ⟨.word (by decide) (by decide), ?_⟩
  exact List.forall_mem_singleton.mpr (.number (by decide) width)

theorem drawn_dashAttributes (dashed : Bool) :
    ∀ item ∈ dashAttributes dashed, item.Drawn marker fill := by
  cases dashed with
  | false => simp [dashAttributes]
  | true => exact List.forall_mem_singleton.mpr (.number (by decide) dashLength)

theorem drawn_polylineAttributes (points : List (Point Float)) (width : Float) :
    ∀ item ∈ polylineAttributes points width, item.Drawn marker fill := by
  refine List.forall_mem_cons.mpr ⟨.points points, ?_⟩
  refine List.forall_mem_cons.mpr ⟨.word (by decide) (by decide), ?_⟩
  exact drawn_strokeAttributes marker fill width

end Drawn

/-- The element of a shape, with attributes of a shape. -/
inductive Element (marker : String) (shape : Shape Float) : List Token → Prop where
  | empty {name : String} {attributes : List Attribute} (known : name ∈ elementNames)
      (drawn : ∀ item ∈ attributes, item.Drawn marker shape.mark.fill?) :
      Element marker shape [.emptyTag name attributes]
  | text {content : String} {attributes : List Attribute} (shown : shape.mark.content? = some content)
      (drawn : ∀ item ∈ attributes, item.Drawn marker shape.mark.fill?) :
      Element marker shape [.startTag "text" attributes, .fixed content, .endTag "text"]

theorem element_shapeTokens (marker : String) (shape : Shape Float) :
    Element marker shape (shapeTokens marker shape) := by
  cases shape with
  | line start finish dashed =>
      refine .empty (by decide) ?_
      simp only [List.forall_mem_append]
      refine ⟨⟨?_, drawn_strokeAttributes _ _ _⟩, drawn_dashAttributes _ _ _⟩
      simp only [List.forall_mem_cons]
      exact ⟨.number (by decide) _, .number (by decide) _, .number (by decide) _,
        .number (by decide) _, by simp⟩
  | rect origin size fill =>
      refine .empty (by decide) (List.forall_mem_append.mpr ⟨?_, ?_⟩)
      · have colour : Attribute.Drawn marker fill (.fixed "fill" (fill.getD "none")) := by
          cases fill with
          | none => exact .word (by decide) (by decide)
          | some colour => exact .colour rfl
        simp only [List.forall_mem_cons]
        exact ⟨.number (by decide) _, .number (by decide) _, .number (by decide) _,
          .number (by decide) _, colour, by simp⟩
      · cases fill with
        | none => exact drawn_strokeAttributes _ _ _
        | some colour => exact List.forall_mem_singleton.mpr (.word (by decide) (by decide))
  | polygon points fill =>
      refine .empty (by decide) (List.forall_mem_cons.mpr ⟨.points points, ?_⟩)
      refine List.forall_mem_cons.mpr ⟨.colour rfl, ?_⟩
      exact List.forall_mem_singleton.mpr (.word (by decide) (by decide))
  | polyline points width => exact .empty (by decide) (drawn_polylineAttributes _ _ _ _)
  | text position role content anchor =>
      refine .text rfl (List.forall_mem_append.mpr ⟨?_, ?_⟩)
      · cases anchor with
        | none => simp
        | some anchor =>
            refine List.forall_mem_singleton.mpr (.word (by decide) ?_)
            cases anchor <;> decide
      · have named : role.name ∈ shapeWords := by cases role <;> decide
        simp only [List.forall_mem_cons]
        exact ⟨.number (by decide) _, .number (by decide) _, .word (by decide) named, by simp⟩
  | arrow start finish style =>
      refine .empty (by decide) ?_
      simp only [List.forall_mem_append]
      exact ⟨⟨drawn_polylineAttributes _ _ _ _, drawn_dashAttributes _ _ _⟩,
        List.forall_mem_singleton.mpr (.reference (by decide))⟩
  | doubleArrow start finish =>
      refine .empty (by decide) (List.forall_mem_append.mpr ⟨drawn_polylineAttributes _ _ _ _, ?_⟩)
      exact List.forall_mem_cons.mpr
        ⟨.reference (by decide), List.forall_mem_singleton.mpr (.reference (by decide))⟩

end Svg

end Chronogram
