import Chronogram.Markup.Entity
import Chronogram.Xml.Name

/-!
References to characters and entities.

The text of an entity may hold references again. Entities lie at most ten deep, and the text of an
entity in the document proper holds at most 255 references at all levels below it, so that no
document grows without bound.
-/

namespace Chronogram.Xml

open Markup Text

/-- What an ampersand introduces. -/
inductive Reference where
  | character (c : Char)
  | entity (name : List Char)
  deriving Repr, DecidableEq

/-- The character with a code; a code that belongs to no character names the replacement character.
Codes have 32 bits. -/
def characterOf? (code : Nat) : Option Char :=
  let c := if code.isValidChar then Char.ofNat code else '\uFFFD'
  if code < Numeral.halfWordBound && isAllowed c then some c else none

def number? : List Char → Option (Nat × List Char)
  | 'x' :: rest =>
      let digits := rest.takeWhile fun c => (hexValue? c).isSome
      if digits.isEmpty then none else some (hexValue digits, rest.drop digits.length)
  | text =>
      let digits := text.takeWhile Char.isDigit
      if digits.isEmpty then none
      else some (Numeral.valueFrom 0 digits, text.drop digits.length)

/-- The reference of a name: five names stand for characters. -/
def Reference.ofName (name : List Char) : Reference :=
  if name = "quot".toList then .character '"'
  else if name = "amp".toList then .character '&'
  else if name = "apos".toList then .character '\''
  else if name = "lt".toList then .character '<'
  else if name = "gt".toList then .character '>'
  else .entity name

/-- Read a reference behind its ampersand, up to its semicolon. -/
def reference? (text : List Char) : Option (Reference × List Char) := do
  let (reference, rest) ← match text with
    | '#' :: rest => do
        let (code, rest) ← number? rest
        let c ← characterOf? code
        some (Reference.character c, rest)
    | _ => do
        let (name, rest) ← name? text
        some (Reference.ofName name, rest)
  let rest ← after? ";" rest
  some (reference, rest)

/-- The texts of entities by their names. The first text of a name counts. -/
abbrev Entities := List (List Char × List Char)

def greatestDepth : Nat := 10

/-- How many references the text of an entity in the document proper may hold at all levels. -/
def greatestReferences : Nat := 255

/-- What remains of the references, after one more; those in the document proper are free. -/
def spend? (levels references : Nat) : Option Nat :=
  if levels = greatestDepth then some greatestReferences
  else if references = 0 then none
  else some (references - 1)

/-- Read the value of an attribute, given how to read the text of an entity in it. White space
becomes blanks, a line end one blank. In entities a reference must not name the character that opens
a tag. `seen` holds what was read, last character first. -/
def normalize? (isNested : Bool)
    (expand : Nat → List Char → List Char → Option (List Char × Nat)) :
    Nat → Nat → List Char → List Char → Option (List Char × Nat)
  | _, references, seen, [] => some (seen, references)
  | 0, _, _, _ => none
  | fuel + 1, references, seen, c :: rest =>
      if c = '&' then
        match reference? rest with
        | none => none
        | some (.character meant, behind) =>
            if !isNested then normalize? isNested expand fuel references (meant :: seen) behind
            else if meant = '<' then none
            else
              normalize? isNested expand fuel references
                ((if isSpace meant then ' ' else meant) :: seen) behind
        | some (.entity name, behind) =>
            match expand references name seen with
            | none => none
            | some (seen, references) =>
                normalize? isNested expand fuel references seen behind
      else if c = '\r' && rest.head? = some '\n' then
        normalize? isNested expand fuel references seen rest
      else
        normalize? isNested expand fuel references ((if isSpace c then ' ' else c) :: seen) rest

/-- Read the value of an attribute with a number of levels for entities left. -/
def valueWithin? (entities : Entities) :
    Nat → Nat → List Char → List Char → Option (List Char × Nat)
  | 0, references, seen, text =>
      normalize? true (fun _ _ _ => none) text.length references seen text
  | levels + 1, references, seen, text =>
      let expand (references : Nat) (name seen : List Char) : Option (List Char × Nat) := do
        let text ← entities.lookup name
        let left ← spend? (levels + 1) references
        valueWithin? entities levels left seen text
      normalize? (levels + 1 ≠ greatestDepth) expand text.length references seen text

/-- Read the value of an attribute, and what it leaves of the references. Most values hold nothing
that has to be replaced. -/
def value? (entities : Entities) (levels references : Nat) (text : List Char) :
    Option (List Char × Nat) :=
  if text.any fun c => c = '&' || isSpace c then
    (valueWithin? entities levels references [] text).map fun (seen, left) => (seen.reverse, left)
  else some (text, references)

end Chronogram.Xml
