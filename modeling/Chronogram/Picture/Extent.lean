import Chronogram.Picture.Bitmap
import Chronogram.Picture.Effect
import Chronogram.Picture.Marker

/-!
The extent of what a picture shows.

The box around a picture holds the outlines of all shapes that are drawn, wherever they are copied
or moved to, and the images and markers among them. How a shape is filled and how wide its lines are
does not count, and neither does text.
-/

namespace Chronogram.Picture

open Xml

/-- The least box around two boxes that may be missing. -/
def unionOf : Option Box → Option Box → Option Box
  | some one, some other => some (one.union other)
  | one, none => one
  | none, other => other

def Box.hasExtent (box : Box) : Bool :=
  isPositive (box.right - box.left) && isPositive (box.bottom - box.top)

/-- The box around an image. A side that is missing follows from the other one, or from the image.
-/
def imageBox? (library : Library) (around : Surroundings) (head : Head) : Option Box := do
  let (imageWidth, imageHeight) ← (attribute? head "href").bind library.imageSize?
  let scale := around.scale
  let place (name : String) : Length := (length? head name).getD .zero
  let (width, height) := match length? head "width", length? head "height" with
    | some width, some height => (scale.across width, scale.down height)
    | some width, none =>
        (scale.across width, imageHeight * (scale.across width / imageWidth))
    | none, some height =>
        (imageWidth * (scale.down height / imageHeight), scale.down height)
    | none, none => (imageWidth, imageHeight)
  let x := scale.across (place "x")
  let y := scale.down (place "y")
  let frame : View := ⟨x, y, ← distance? x width, ← distance? y height⟩
  let map ← (fittingOf head).imageMap? imageWidth imageHeight frame
  Box.map? (around.place.compose map) ⟨0, 0, imageWidth, imageHeight⟩

/-- The box around a box and an element that is drawn, for what is around the element. The sides are
those that are asked for with a copy of it. The levels bound how deep elements lie. -/
def extendBy (library : Library) :
    Nat → Surroundings → Option Float32 × Option Float32 → Option Box → Site → Option Box
  | 0, _, _, box, _ => box
  | levels + 1, outside, sidesAsked, box, site =>
      let drawInner (within : Surroundings) (box : Option Box) (sites : List Site) : Option Box :=
        sites.foldl (extendBy library levels within (none, none)) box
      let drawWith (style : Style) (around : Surroundings)
          (draw : Surroundings → Option Box → Option Box) : Option Box :=
        if style.hasEffects then
          let view : EffectView :=
            { library
              around
              hasExtent := Thunk.mk fun _ =>
                (draw { around with place := .still } none).any Box.hasExtent
              hasContent := fun resource =>
                (drawInner (around.within library resource) none resource.inner).isSome }
          if view.canApply levels style then draw around box else box
        else draw around box
      match Kind.of? site.head.name with
      | none => box
      | some kind =>
          let style := Style.of library.sheet outside.styles site.rank site.outer
          let around := outside.enter style
          let around := around.moved (style.transformation around.fontSize around.view)
          if !(style.isDrawn && isAvailable site.head) then box
          else drawWith style around fun around box =>
            match kind with
            | .shape kind =>
                let outline := kind.outline around.scale site.head
                match outline.boxUnder? around.place with
                | none => box
                | some found =>
                    let markers := if kind.hasMarkers then markersOn library around outline else []
                    markers.foldl (fun box (marker, map) =>
                      let within := (around.within library marker.site).moved map
                      let markers := marker.site.head.index :: around.markers
                      drawInner { within with markers } box marker.site.inner)
                      (unionOf box (some found))
            | .image => unionOf box (imageBox? library around site.head)
            | .group => drawInner around box site.inner
            | .choice =>
                drawInner around box (site.inner.find? fun inner =>
                  isAvailable inner.head &&
                    ((Kind.of? inner.head.name).any (· ≠ .sheet))).toList
            | .picture =>
                let within := if site.outer.isEmpty then around
                  else around.withinPicture site.head sidesAsked
                drawInner within box site.inner
            | .use =>
                match library.links.target? outside.origin site.head with
                | none => box
                | some target =>
                    let copied := { around.moved (offset around.scale site.head) with
                      origin := some site.head.index }
                    if Kind.of? target.head.name = some .symbol then
                      let within := copied.withinSymbol site.head target.head
                      let style := Style.of library.sheet within.styles target.rank target.outer
                      let within := within.enter style
                      drawWith style
                        (within.moved (style.transformation within.fontSize within.view))
                        fun within box => drawInner within box target.inner
                    else
                      extendBy library levels copied (copySides around.scale site.head) box target
            | _ => box

end Chronogram.Picture
