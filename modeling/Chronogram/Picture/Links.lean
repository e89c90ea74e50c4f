import Std.Data.HashMap
import Chronogram.Picture.Kind
import Chronogram.Text.Blank
import Chronogram.Xml.Site

/-!
Elements that are drawn in other places.

An element of the kind `use` names another element, which takes its place once more. Such copies can
hold copies in turn, so a picture can be far larger than its document. A picture has a limited
number of elements and lies within a limited number of levels.
-/

namespace Chronogram.Picture

open Xml

/-- The elements of a document that have names. -/
structure Links where
  /-- The first element of every name. -/
  sites : Std.HashMap String Site
  /-- The last element of every name that belongs to the picture. -/
  resources : Std.HashMap String Site

/-- Whether an element belongs to a picture as all those around it do. What stands in a copy or in a
style sheet belongs to none. -/
def belongs (site : Site) : Bool :=
  (Kind.of? site.head.name).any (· ≠ .sheet) &&
    site.outer.all fun rank =>
      (Kind.of? rank.head.name).any fun kind => kind ≠ .sheet && kind ≠ .use

/-- The elements that have names among nodes. -/
def Links.ofNodes (nodes : List Node) : Links :=
  visitAll (fun links site =>
    { sites := match site.head.value? "id".toList with
        | some name => links.sites.insertIfNew (String.ofList name) site
        | none => links.sites
      resources := match attribute? site.head "id" with
        | some name =>
            if belongs site then links.resources.insert (String.ofList name) site
            else links.resources
        | none => links.resources }) ⟨∅, ∅⟩ nodes

/-- Read a link to an element of the same document. -/
def link? (text : List Char) : Option (List Char) :=
  match skipSpace text with
  | '#' :: rest =>
      let name := rest.takeWhile (· ≠ ' ')
      if name.isEmpty || !(skipSpace (rest.drop name.length)).isEmpty then none else some name
  | _ => none

def linkOf? (head : Head) : Option (List Char) :=
  let href := "href".toList
  let given := head.attributes.find? fun given => given.name = ⟨some linkSpace, href⟩
  ((given.map Attribute.value).or (head.value? href)).bind link?

/-- Read a reference to an element of the same document at the front of a text. The name may stand
in quotation marks. -/
def referenceFront? (text : List Char) : Option (List Char × List Char) := do
  let rest := skipSpace (← after? "url(" (skipSpace text))
  let mark := rest.head?.filter fun c => c = '\'' || c = '"'
  let rest ← after? "#" (if mark.isSome then skipSpace rest.tail else rest)
  let named := match mark with
    | some mark => rest.takeWhile (· ≠ mark)
    | none => rest.takeWhile fun c => c ≠ ' ' && c ≠ ')'
  let name := if mark.isSome then Text.trimEnd named else named
  if name.isEmpty || name.contains '\'' || name.contains '"' then none
  else
    let rest := rest.drop named.length
    let rest ← match mark with
      | some _ => rest.tail?
      | none => some rest
    let rest ← after? ")" (skipSpace rest)
    some (name, rest)

namespace Links

def resource? (links : Links) (text : List Char) : Option Site := do
  let (name, rest) ← referenceFront? text
  if (skipSpace rest).isEmpty then links.resources.get? (String.ofList name) else none

def named? (links : Links) (head : Head) : Option Site :=
  (linkOf? head).bind fun name => links.sites.get? (String.ofList name)

/-- Whether an element within a site names the site or another given element. -/
def refersBack (links : Links) (use : Head) (site : Site) : Bool :=
  let names (head : Head) : Bool :=
    head.name = ⟨some svgSpace, "use".toList⟩ &&
      (links.named? head).any fun target =>
        target.head.index = use.index || target.head.index = site.head.index
  visitAll (fun found inner => found || names inner.head) false site.children

/-- The element that is drawn in the place of another one, within a copy for `origin`. Nothing is
drawn within itself. -/
def target? (links : Links) (origin : Option Nat) (use : Head) : Option Site :=
  (links.named? use).filter fun site =>
    site.head.index ≠ use.index && origin ≠ some site.head.index &&
      (Kind.of? site.head.name).isSome && !links.refersBack use site

end Links

def siteNode (site : Site) : Node := .element site.head site.children

def greatestLevels : Nat := 1025

def greatestCount : Nat := 1000000

/-- Count the elements of a node after others, if they lie within a number of levels and do not
exceed the greatest number. A copy lies two levels below the element that it is drawn for; what
stands in text counts for nothing. -/
def countFrom? (links : Thunk Links) : Nat → Option Nat → Nat → Node → Option Nat
  | 0, _, _, _ => none
  | levels + 1, origin, count, .element head children =>
      match Kind.of? head.name with
      | none => some count
      | some .sheet => some count
      | some kind =>
          if greatestCount ≤ count then none
          else match kind with
            | .text => some (count + 1)
            | .use =>
                match links.get.target? origin head with
                | none => some (count + 1)
                | some site =>
                    match levels with
                    | 0 => none
                    | levels + 1 =>
                        countFrom? links levels (some head.index) (count + 1) (siteNode site)
            | _ =>
                children.foldlM (fun count child => countFrom? links levels origin count child)
                  (count + 1)
  | _ + 1, _, count, _ => some count

/-- Whether a picture keeps within its limits. -/
def isBounded (links : Thunk Links) (nodes : List Node) : Bool :=
  (nodes.foldlM (fun count node => countFrom? links greatestLevels none count node) 0).isSome

end Chronogram.Picture
