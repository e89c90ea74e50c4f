import Chronogram.Picture.Surroundings

/-!
What becomes of an element once it is drawn.

An element can be cut to the shape of others, be faded with them, and be changed by filters. Each of
these refers to an element for the purpose. Where that element cannot be used nothing is drawn at
all; a reference to an element that is not there counts for nothing, but for filters.
-/

namespace Chronogram.Picture

open Xml

/-- What is known where the effects on an element are looked at. -/
structure EffectView where
  library : Library
  around : Surroundings
  /-- Whether what is drawn has extent along both axes. -/
  hasExtent : Thunk Bool
  /-- Whether anything is drawn within an element. -/
  hasContent : Site → Bool

/-- Whether an element counts in parts of the box around what it is used for. -/
def isBoxed (head : Head) (name : String) (standard : Bool) : Bool :=
  match attribute? head name with
  | some text =>
      if text = "objectBoundingBox".toList then true
      else if text = "userSpaceOnUse".toList then false
      else standard
  | none => standard

/-- A side or a place of a region; in a box a percentage is a part of one. -/
def regionLength (boxed : Bool) (pixels : Length → Float32) (length : Length) : Float32 :=
  if boxed && length.unit = .percent then length.number.toFloat32 / 100 else pixels length

/-- Whether the region of an element has extent. It is a tenth larger than the box on all sides if
nothing else is asked for. -/
def hasRegion (scale : Scale) (boxed : Bool) (head : Head) : Bool :=
  let across (name : String) (percent : Float) : Float32 :=
    regionLength boxed scale.across ((length? head name).getD ⟨percent, .percent⟩)
  let down (name : String) (percent : Float) : Float32 :=
    regionLength boxed scale.down ((length? head name).getD ⟨percent, .percent⟩)
  (distance? (across "x" (-10)) (across "width" 120)).isSome &&
    (distance? (down "y" (-10)) (down "height" 120)).isSome

namespace EffectView

/-- The element that another one refers to with a property where it stands in the document; no
element refers to itself. -/
def next? (view : EffectView) (name : PropertyName) (site : Site) : Option Site :=
  (((view.library.styles site).head?.bind (·.value? name)).bind view.library.links.resource?).filter
    fun found => found.head.index ≠ site.head.index

/-- Whether what is drawn can be cut to an element. The fuel bounds how many elements are cut to
each other. -/
def canClip (view : EffectView) : Nat → Site → Bool
  | 0, _ => false
  | fuel + 1, site =>
      let transform := (view.library.styles site).head?.bind (·.value? .transform)
      Kind.of? site.head.name = some .clip &&
        transform.all (fun text => (steps? text).any Affine.isValid) &&
        (view.next? .clipPath site).all (view.canClip fuel) &&
        (!isBoxed site.head "clipPathUnits" false || view.hasExtent.get)

/-- Whether what is drawn can be faded with an element. Without extent it vanishes if the mask
counts in parts of its box. The fuel bounds how many elements are faded with each other. -/
def canMask (view : EffectView) : Nat → Site → Bool
  | 0, _ => false
  | fuel + 1, site =>
      let boxed := isBoxed site.head "maskUnits" true
      let isWhole :=
        (boxed || isBoxed site.head "maskContentUnits" false) && !view.hasExtent.get
      Kind.of? site.head.name = some .mask &&
        hasRegion (view.around.scaleOf view.library site) boxed site.head &&
        (isWhole || ((view.next? .mask site).all (view.canMask fuel) && view.hasContent site))

/-- Whether a filter or one that it refers to has steps. The fuel bounds how many refer to each
other. -/
def hasSteps (view : EffectView) : Nat → Site → Bool
  | 0, _ => false
  | fuel + 1, site =>
      Kind.of? site.head.name = some .filter &&
        (site.inner.any (fun inner => (Kind.of? inner.head.name).any (· ≠ .sheet)) ||
          (((attribute? site.head "href").bind link?).bind fun name =>
            view.library.links.resources.get? (String.ofList name)).any (view.hasSteps fuel))

def canFilter (view : EffectView) (fuel : Nat) (site : Site) : Bool :=
  let boxed := isBoxed site.head "filterUnits" true
  hasRegion (view.around.scaleOf view.library site) boxed site.head &&
    (!boxed || view.hasExtent.get) && view.hasSteps fuel site

/-- Read references to elements of the same document with nothing else between them. Every round
takes at least one character, which the fuel bounds. -/
def references? : Nat → List Char → Option (List (List Char))
  | 0, _ => none
  | fuel + 1, text =>
      match skipSpace text with
      | [] => some []
      | rest => do
          let (name, rest) ← referenceFront? rest
          (references? fuel rest).map (name :: ·)

/-- Whether a row of filters can be used. If it consists of references, one of them must lead to a
filter. -/
def canFilterBy (view : EffectView) (fuel : Nat) (text : List Char) : Bool :=
  match references? (text.length + 1) text with
  | none => true
  | some [] => true
  | some names => names.any fun name =>
      (view.library.links.resources.get? (String.ofList name)).any (view.canFilter fuel)

/-- Whether what is drawn in a style can be seen once all effects are applied. -/
def canApply (view : EffectView) (fuel : Nat) (style : Style) : Bool :=
  let found (name : PropertyName) : Option Site :=
    (style.value? name).bind view.library.links.resource?
  (found .clipPath).all (view.canClip fuel) && (found .mask).all (view.canMask fuel) &&
    (style.value? .filter).all (view.canFilterBy fuel)

end EffectView

def Style.hasEffects (style : Style) : Bool :=
  [PropertyName.clipPath, .mask, .filter].any fun name => (style.get? name).isSome

end Chronogram.Picture
