import Chronogram.Css.Sheet
import Chronogram.Picture.Length

/-!
Properties of elements.

A property comes from an attribute of its own, from a style sheet or from the attribute `style`;
later declarations replace earlier ones that are not important. A value can be that of an element
around it. Only the properties that decide about sizes and places are kept.
-/

namespace Chronogram.Picture

open Css (Declaration Sheet declarations)
open Xml

/-- The properties that decide about sizes and places. -/
inductive PropertyName where
  | fontSize
  | display
  | visibility
  | transform
  | transformOrigin
  | clipPath
  | mask
  | filter
  | strokeWidth
  | markerStart
  | markerMid
  | markerEnd
  deriving Repr, DecidableEq

namespace PropertyName

def text : PropertyName → String
  | .fontSize => "font-size"
  | .display => "display"
  | .visibility => "visibility"
  | .transform => "transform"
  | .transformOrigin => "transform-origin"
  | .clipPath => "clip-path"
  | .mask => "mask"
  | .filter => "filter"
  | .strokeWidth => "stroke-width"
  | .markerStart => "marker-start"
  | .markerMid => "marker-mid"
  | .markerEnd => "marker-end"

def all : List PropertyName :=
  [.fontSize, .display, .visibility, .transform, .transformOrigin, .clipPath, .mask, .filter,
   .strokeWidth, .markerStart, .markerMid, .markerEnd]

def markers : List PropertyName := [.markerStart, .markerMid, .markerEnd]

/-- Whether elements have a property from all elements around them. -/
def isInherited : PropertyName → Bool
  | .fontSize => true
  | .visibility => true
  | .strokeWidth => true
  | name => markers.contains name

/-- The value where nothing is said about a property, if it has one that can be written. -/
def initial? : PropertyName → Option String
  | .fontSize => some "medium"
  | .display => some "inline"
  | .visibility => some "visible"
  | .strokeWidth => some "1"
  | .transform => none
  | .transformOrigin => none
  | _ => some "none"

end PropertyName

structure Property where
  value : List Char
  isImportant : Bool

/-- What is said about the properties of an element. -/
structure Style where
  properties : List (PropertyName × Property)

namespace Style

/-- The style of an element about which nothing is said. -/
def empty : Style := ⟨[]⟩

def get? (style : Style) (name : PropertyName) : Option Property :=
  style.properties.lookup name

def value? (style : Style) (name : PropertyName) : Option (List Char) :=
  (style.get? name).map Property.value

def set (style : Style) (name : PropertyName) (property : Property) : Style :=
  ⟨(name, property) :: style.properties.filter (·.1 ≠ name)⟩

/-- What an element takes over from those around it, the innermost first. -/
def inherited? (outer : List Style) (name : PropertyName) : Option Property :=
  let found := if name.isInherited then outer.findSome? (·.get? name)
    else outer.head?.bind (·.get? name)
  found.or (name.initial?.map fun value => ⟨value.toList, false⟩)

/-- Say something about a property, unless something important is said already. -/
def add (outer : List Style) (style : Style) (name : PropertyName) (given : Property) : Style :=
  let property? := if given.value = "inherit".toList then inherited? outer name else some given
  match property? with
  | none => style
  | some property =>
      if (style.get? name).any Property.isImportant then style else style.set name property

end Style

/-- The words for slopes, variants, weights and widths of letters. -/
def fontWords : List String :=
  ["normal", "small-caps", "italic", "oblique", "bold", "bolder", "lighter", "100", "200", "300",
   "400", "500", "600", "700", "800", "900", "ultra-condensed", "extra-condensed", "condensed",
   "semi-condensed", "semi-expanded", "expanded", "extra-expanded", "ultra-expanded"]

/-- The sizes of letters with a name, in steps of a fifth from the size around them. -/
def namedFontSizes : List (String × Int) :=
  [("xx-small", -3), ("x-small", -2), ("small", -1), ("medium", 0), ("large", 1), ("x-large", 2),
   ("xx-large", 3), ("smaller", -1), ("larger", 1)]

def isWordChar (c : Char) : Bool :=
  c.isAlphanum || c = '-' || c = '_'

/-- Drop at most a given number of words about letters. -/
def skipFontWords : Nat → List Char → List Char
  | 0, text => text
  | count + 1, text =>
      let word := text.takeWhile isWordChar
      if fontWords.contains (String.ofList word) then
        skipFontWords count (skipSpace (text.drop word.length))
      else text

/-- The size of letters in a description of a font: words about letters, the size, perhaps the
height of lines, and the family. -/
def sizeOfFont? (text : List Char) : Option (List Char) := do
  let text := skipFontWords 4 (skipSpace text)
  let rest ← match text with
    | [] => none
    | c :: _ =>
        if c.isDigit then (Length.readFront? text).map Prod.snd
        else
          let word := text.takeWhile isWordChar
          if (namedFontSizes.lookup (String.ofList word)).isSome then some (text.drop word.length)
          else none
  let size := text.take (text.length - rest.length)
  match skipSpace rest with
  | [] => none
  | '/' :: behind => do
      let (_, rest) ← Length.readFront? (skipSpace behind)
      if (skipSpace rest).isEmpty then none else some size
  | _ => some size

def Style.declare (outer : List Style) (style : Style) (given : Declaration) : Style :=
  if given.name = "font".toList then
    match sizeOfFont? given.value with
    | some size => style.add outer .fontSize ⟨size, given.isImportant⟩
    | none => style
  else if given.name = "marker".toList then
    PropertyName.markers.foldl (fun style name =>
      style.add outer name ⟨given.value, given.isImportant⟩) style
  else
    match PropertyName.all.find? fun name => name.text.toList = given.name with
    | some name => style.add outer name ⟨given.value, given.isImportant⟩
    | none => style

/-- The style of an element with others around it in the document, for the styles around it in the
picture. -/
def Style.of (sheet : Sheet) (styles : List Style) (rank : Rank) (outer : List Rank) : Style :=
  let ofAttributes := PropertyName.all.foldl (fun style name =>
    match attribute? rank.head name.text with
    | some value => style.add styles name ⟨value, false⟩
    | none => style) Style.empty
  let declared := sheet.declarationsFor rank outer ++
    declarations ((rank.head.value? "style".toList).getD [])
  declared.foldl (Style.declare styles) ofAttributes

/-- The styles of elements around each other in the document, the innermost first. -/
def stylesOf (sheet : Sheet) : List Rank → List Style
  | [] => []
  | rank :: outer =>
      let styles := stylesOf sheet outer
      Style.of sheet styles rank outer :: styles

/-- The texts of the style sheets in a document: what stands first in an element of that name. -/
def sheetTexts (nodes : List Node) : List (List Char) :=
  let text? (site : Site) : Option (List Char) :=
    if site.head.name.name = "style".toList &&
        (site.head.value? "type".toList).all fun type => type = [] || type = "text/css".toList then
      site.children.head?.bind Node.text?
    else none
  (visitAll (fun texts site => (text? site).toList ++ texts) [] nodes).reverse

def sheetOf (nodes : List Node) : Sheet :=
  Sheet.ofTexts (sheetTexts nodes)

def defaultFontSize : Float32 := 12

def steppedFontSize (around : Float32) (steps : Int) : Float32 :=
  let factor := (List.replicate steps.natAbs (1.2 : Float32)).foldl (· * ·) 1
  around * if steps < 0 then 1 / factor else factor

def Style.fontSizeIn (style : Style) (around : Float32) : Float32 :=
  match style.value? .fontSize with
  | none => around
  | some text =>
      match Length.read? text with
      | some ⟨number, .percent⟩ => number.toFloat32 * around * 0.01
      | some length => length.pixels (Thunk.pure around) around
      | none =>
          steppedFontSize around
            ((namedFontSizes.lookup (String.ofList text)).getD 0)

/-- The size of letters within elements around each other, whose styles are given from the innermost
one on. -/
def fontSizeOf (styles : List Style) : Float32 :=
  styles.foldr Style.fontSizeIn defaultFontSize

end Chronogram.Picture
