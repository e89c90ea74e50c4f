import Chronogram.Xml.Node
import Chronogram.Xml.Reference

/-!
Start tags: attributes and name spaces.

An attribute called `xmlns`, or qualified by it, declares a name space for the element and all
within it. Every other qualifier must have been declared, and no element has two attributes of the
same name in the same space. A text may end within a tag; what the tag gave so far is then left to
the next element that starts or ends.
-/

namespace Chronogram.Xml

structure WrittenAttribute where
  name : QualifiedName
  value : List Char
  deriving Repr, DecidableEq

/-- The name spaces of qualifiers, the innermost declaration first. Names without a qualifier belong
to the space of the empty one. -/
abbrev Scope := List (List Char × List Char)

/-- The space of a name in a scope: a qualifier must be declared. -/
def Scope.space? (scope : Scope) (qualifier : List Char) : Option (Option (List Char)) :=
  match scope.lookup qualifier with
  | some space => some (some space)
  | none => if qualifier.isEmpty then some none else none

/-- Whether an attribute declares a name space. -/
def WrittenAttribute.isDeclaration (written : WrittenAttribute) : Bool :=
  written.name.qualifier = "xmlns".toList || written.name.name = "xmlns".toList

/-- Add the name space that an attribute declares. -/
def Scope.declare? (declared : Scope) (written : WrittenAttribute) : Option Scope :=
  if written.name.qualifier = "xmlns".toList then
    if written.value = declarationSpace then none
    else if written.name.name = "xml".toList then
      if written.value = xmlSpace then some declared else none
    else if written.value = xmlSpace || (declared.lookup written.name.name).isSome then none
    else some (declared ++ [(written.name.name, written.value)])
  else if written.value = xmlSpace || written.value = declarationSpace then none
  else some (declared ++ [([], written.value)])

/-- The attribute that is written, in a scope. An attribute without a qualifier belongs to no
space. -/
def WrittenAttribute.resolve? (scope : Scope) (written : WrittenAttribute) : Option Attribute :=
  if written.name.qualifier = "xml".toList then
    some ⟨⟨some xmlSpace, written.name.name⟩, written.value⟩
  else if written.name.qualifier.isEmpty then some ⟨⟨none, written.name.name⟩, written.value⟩
  else (scope.space? written.name.qualifier).map fun space =>
    ⟨⟨space, written.name.name⟩, written.value⟩

/-- What tags gave that no element has taken yet. -/
structure Pending where
  /-- The attributes, the last one first. -/
  attributes : List WrittenAttribute
  declared : Scope

namespace Pending

def empty : Pending := ⟨[], []⟩

def add? (pending : Pending) (written : WrittenAttribute) : Option Pending :=
  if written.isDeclaration then
    (pending.declared.declare? written).map fun declared => { pending with declared }
  else some { pending with attributes := written :: pending.attributes }

/-- The attributes of an element that takes them, and the name spaces within it, given the name
spaces around it. -/
def take? (pending : Pending) (outer : Scope) : Option (List Attribute × Scope) := do
  let scope := pending.declared ++ outer
  let attributes ← pending.attributes.reverse.mapM (·.resolve? scope)
  if (attributes.map Attribute.name).Nodup then some (attributes, scope) else none

end Pending

/-- Read up to a mark; what stands before it must be accepted. `seen` holds what was read, last
character first. -/
def quotedFrom? (mark : Char) (accepts : Char → Bool) (seen : List Char) :
    List Char → Option (List Char × List Char)
  | [] => none
  | c :: rest =>
      if c = mark then some (seen.reverse, rest)
      else if accepts c then quotedFrom? mark accepts (c :: seen) rest
      else none

/-- Read a value in quotation marks, of characters that are accepted. -/
def quoted? (accepts : Char → Bool) : List Char → Option (List Char × List Char)
  | mark :: rest => if mark = '"' || mark = '\'' then quotedFrom? mark accepts [] rest else none
  | [] => none

/-- Read a text in quotation marks, whatever it holds. -/
def literal? : List Char → Option (List Char × List Char) :=
  quoted? fun _ => true

/-- Read a name, an equals sign and a value in quotation marks. -/
def assignment? (text : List Char) :
    Option (QualifiedName × List Char × List Char) := do
  let (name, rest) ← qualifiedName? text
  let rest ← after? "=" (skipSpace rest)
  let (value, rest) ← quoted? (fun c => c ≠ '<' && isAllowed c) (skipSpace rest)
  some (name, value, rest)

structure Setting where
  entities : Entities
  /-- The levels that are left for entities. -/
  levels : Nat

inductive TagEnd where
  /-- The content of the element follows. -/
  | opening
  /-- The element is empty. -/
  | closing
  /-- The text ends before the tag does. -/
  | missing
  deriving Repr, DecidableEq

/-- Read attributes up to the end of the tag. White space stands in front of each. Every round takes
at least one character, which the fuel bounds. The answer holds what is left of the references and
of the text. -/
def attributes? (setting : Setting) :
    Nat → Nat → Pending → List Char → Option (Pending × Nat × TagEnd × List Char)
  | 0, _, _, _ => none
  | _ + 1, references, pending, [] => some (pending, references, .missing, [])
  | fuel + 1, references, pending, c :: text =>
      match skipSpace (c :: text) with
      | '/' :: '>' :: behind => some (pending, references, .closing, behind)
      | '>' :: behind => some (pending, references, .opening, behind)
      | rest =>
          if isSpace c then
            match assignment? rest with
            | none => none
            | some (name, raw, behind) =>
                match value? setting.entities setting.levels references raw with
                | none => none
                | some (value, references) =>
                    match pending.add? ⟨name, value⟩ with
                    | none => none
                    | some pending => attributes? setting fuel references pending behind
          else none

end Chronogram.Xml
