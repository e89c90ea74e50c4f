import Chronogram.Xml.Tag

/-!
The content of elements.

A reader follows tags, character data, comments and instructions and keeps the elements that are
open, the innermost first. The text of an entity is read in its place by the same reader. It may
leave elements open, and once it has named an element of its own it may close elements that were
open before; it ends where it closes more elements than it opens. A text that ends early leaves its
elements open as well.
-/

namespace Chronogram.Xml

structure OpenElement where
  written : QualifiedName
  head : Head
  /-- The name spaces within the element. -/
  scope : Scope
  /-- The finished children, the last one first. -/
  children : List Node

def OpenElement.close (element : OpenElement) : Node :=
  .element element.head element.children.reverse

/-- How far a reader of content has come. -/
structure Progress where
  /-- What is left of the references. -/
  references : Nat
  /-- The number of elements so far. -/
  count : Nat
  /-- Whether the text at hand has named an element. -/
  hasNamed : Bool
  pending : Pending
  /-- The finished nodes outside of all open elements, the last one first. -/
  nodes : List Node
  /-- The open elements, the innermost first. -/
  stack : List OpenElement

namespace Progress

def start : Progress := ⟨0, 0, false, .empty, [], []⟩

/-- Change the children of the innermost element, the last one first. -/
def mapChildren (progress : Progress) (change : List Node → List Node) : Progress :=
  match progress.stack with
  | [] => { progress with nodes := change progress.nodes }
  | element :: outer =>
      { progress with stack := { element with children := change element.children } :: outer }

def add (progress : Progress) (node : Node) : Progress :=
  progress.mapChildren (node :: ·)

/-- Add character data to the innermost element, to the data that stands at its end. -/
def addText (progress : Progress) (content : List Char) : Progress :=
  progress.mapChildren fun
    | .text pieces :: before => .text (content :: pieces) :: before
    | nodes => .text [content] :: nodes

/-- The name spaces within the innermost element. -/
def scope (progress : Progress) : Scope :=
  match progress.stack with
  | [] => []
  | element :: _ => element.scope

/-- Start an element, which is complete if it is empty. -/
def startElement? (progress : Progress) (name : QualifiedName) (isEmpty : Bool) :
    Option Progress := do
  let (attributes, scope) ← progress.pending.take? progress.scope
  let space ← scope.space? name.qualifier
  let element : OpenElement :=
    ⟨name, ⟨progress.count, ⟨space, name.name⟩, attributes⟩, scope, []⟩
  let progress := { progress with count := progress.count + 1, pending := .empty }
  if isEmpty then some (progress.add element.close)
  else some { progress with stack := element :: progress.stack }

/-- Close the innermost element, which must have a given name. -/
def close? (progress : Progress) (name : QualifiedName) : Option Progress :=
  match progress.stack with
  | [] => none
  | element :: outer =>
      if progress.hasNamed && element.written = name &&
          (progress.pending.take? progress.scope).isSome then
        some (({ progress with stack := outer, pending := .empty } : Progress).add element.close)
      else none

end Progress

/-- Read a start tag behind its opening bracket. -/
def startTag? (setting : Setting) (fuel : Nat) (progress : Progress) (text : List Char) :
    Option (Progress × TagEnd × List Char) := do
  let (name, rest) ← qualifiedName? text
  if name.qualifier = "xmlns".toList then none
  else
    let (pending, references, tagEnd, rest) ←
      attributes? setting fuel progress.references progress.pending rest
    let progress := { progress with references, pending, hasNamed := true }
    match tagEnd with
    | .missing => some (progress, .missing, rest)
    | _ => do
        let progress ← progress.startElement? name (tagEnd = .closing)
        some (progress, tagEnd, rest)

/-- Read an end tag behind its opening bracket and its slash. -/
def endTag? (progress : Progress) (text : List Char) : Option (Progress × List Char) := do
  let (name, rest) ← qualifiedName? text
  let rest ← after? ">" (skipSpace rest)
  let progress ← progress.close? name
  some (progress, rest)

/-- Read a comment behind its opening mark. Two hyphens end it. -/
def comment? : List Char → Option (List Char)
  | [] => none
  | '-' :: '-' :: '>' :: rest => some rest
  | '-' :: '-' :: _ => none
  | c :: rest => if isAllowed c then comment? rest else none

/-- Read verbatim data behind its opening mark; `seen` holds what was read, last character first. -/
def verbatim? (seen : List Char) : List Char → Option (List Char × List Char)
  | [] => none
  | ']' :: ']' :: '>' :: rest => some (seen.reverse, rest)
  | c :: rest => if isAllowed c then verbatim? (c :: seen) rest else none

/-- Read an instruction behind its opening mark. A declaration of the document is none. -/
def instruction? (text : List Char) : Option (List Char) :=
  if "xml ".toList.isPrefixOf text then none
  else (name? text).bind fun (_, rest) => skipPast? "?>" rest

/-- Read what an exclamation mark behind an opening bracket introduces: a comment or verbatim
data. -/
def remark? (progress : Progress) (text : List Char) : Option (Progress × List Char) :=
  match after? "--" text with
  | some rest => (comment? rest).map fun rest => (progress.add .remark, rest)
  | none =>
      ((after? "[CDATA[" text).bind (verbatim? [])).map fun (content, rest) =>
        (progress.addText content, rest)

/-- Whether a mark stands somewhere in a text. -/
def holds (mark : String) : List Char → Bool
  | [] => false
  | c :: rest => (after? mark (c :: rest)).isSome || holds mark rest

inductive Piece where
  | text (content : List Char)
  | entity (name : List Char)
  deriving Repr, DecidableEq

/-- The pieces of character data, with the references to characters replaced; `seen` holds those
before it, the last one first. Every round takes at least one character, which the fuel bounds. -/
def piecesFrom? : Nat → List Piece → List Char → Option (List Piece)
  | 0, _, _ => none
  | fuel + 1, seen, text =>
      let seen := .text (text.takeWhile (· ≠ '&')) :: seen
      match text.dropWhile (· ≠ '&') with
      | [] => some seen.reverse
      | _ :: rest =>
          match reference? rest with
          | none => none
          | some (.character c, behind) => piecesFrom? fuel (.text [c] :: seen) behind
          | some (.entity name, behind) => piecesFrom? fuel (.entity name :: seen) behind

/-- The pieces of character data. The mark that ends verbatim data must not stand in it. -/
def pieces? (data : List Char) : Option (List Piece) :=
  if data.all isAllowed && !(data.contains '>' && holds "]]>" data) then
    piecesFrom? (data.length + 1) [] data
  else none

/-- How to read the text of an entity in its place. -/
abbrev Expansion := Progress → List Char → Option Progress

def Progress.addPiece? (expand : Expansion) (progress : Progress) : Piece → Option Progress
  | .text content => if content.isEmpty then some progress else some (progress.addText content)
  | .entity name => expand progress name

/-- Follow content up to the end tag that closes one more element than the text has opened, or to
the end of the text; the answer holds what remains. The depth counts the elements that the text has
opened, and one. Every round takes at least one character, which the fuel bounds. -/
def content? (setting : Setting) (expand : Expansion) :
    Nat → Nat → Progress → List Char → Option (Progress × List Char)
  | 0, _, _, _ => none
  | fuel + 1, depth, progress, text =>
      match text with
      | [] => some (progress, [])
      | '<' :: '/' :: rest =>
          match endTag? progress rest with
          | none => none
          | some (progress, rest) =>
              if depth = 1 then some (progress, rest)
              else content? setting expand fuel (depth - 1) progress rest
      | '<' :: '!' :: rest =>
          match remark? progress rest with
          | none => none
          | some (progress, rest) => content? setting expand fuel depth progress rest
      | '<' :: '?' :: rest =>
          match instruction? rest with
          | none => none
          | some rest => content? setting expand fuel depth (progress.add .remark) rest
      | '<' :: rest =>
          match startTag? setting fuel progress rest with
          | none => none
          | some (progress, tagEnd, rest) =>
              content? setting expand fuel (if tagEnd = .opening then depth + 1 else depth)
                progress rest
      | _ =>
          match (pieces? (text.takeWhile (· ≠ '<'))).bind fun pieces =>
              pieces.foldlM (Progress.addPiece? expand) progress with
          | none => none
          | some progress =>
              content? setting expand fuel depth progress (text.dropWhile (· ≠ '<'))

/-- Read the text of an entity in its place, with a number of levels for entities left. -/
def expansion (entities : Entities) : Nat → Expansion
  | 0, _, _ => none
  | levels + 1, progress, name => do
      let text ← entities.lookup name
      let references ← spend? (levels + 1) progress.references
      let (after, _) ← content? ⟨entities, levels⟩ (expansion entities levels) (text.length + 1) 1
        { progress with references, hasNamed := false } text
      some { after with hasNamed := progress.hasNamed }

/-- Read the root element behind its opening bracket; the answer holds what follows it. -/
def root? (entities : Entities) (text : List Char) : Option (Progress × List Char) := do
  let setting : Setting := ⟨entities, greatestDepth⟩
  let fuel := text.length + 1
  let (progress, tagEnd, rest) ← startTag? setting fuel .start text
  if tagEnd = .opening then
    content? setting (expansion entities greatestDepth) fuel 1 progress rest
  else some (progress, rest)

end Chronogram.Xml
