import Chronogram.Xml.Name

/-!
The tree of a document.

The elements are counted in the order of their start tags, so that two elements with the same name
and attributes can be told apart.
-/

namespace Chronogram.Xml

def xmlSpace : List Char := "http://www.w3.org/XML/1998/namespace".toList

def declarationSpace : List Char := "http://www.w3.org/2000/xmlns/".toList

structure ExpandedName where
  space : Option (List Char)
  name : List Char
  deriving Repr, DecidableEq

structure Attribute where
  name : ExpandedName
  value : List Char
  deriving Repr, DecidableEq

structure Head where
  /-- How many elements start before it. -/
  index : Nat
  name : ExpandedName
  attributes : List Attribute
  deriving Repr, DecidableEq

def Head.value? (head : Head) (name : List Char) : Option (List Char) :=
  (head.attributes.find? fun given => given.name.name = name).map Attribute.value

inductive Node where
  | element (head : Head) (children : List Node)
  /-- Character data in pieces, the last one first. -/
  | text (pieces : List (List Char))
  /-- A comment or an instruction. -/
  | remark

def Node.isElement : Node → Bool
  | .element .. => true
  | _ => false

def Node.text? : Node → Option (List Char)
  | .text pieces => some pieces.reverse.flatten
  | _ => none

end Chronogram.Xml
