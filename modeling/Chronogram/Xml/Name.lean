import Chronogram.Text.Ranges

/-!
Characters and names of XML documents.

A name may be qualified: a colon parts the qualifier, which stands for a name space, from the name
within that space.
-/

namespace Chronogram.Xml

open Text

def isSpace (c : Char) : Bool :=
  c = ' ' || c = '\t' || c = '\n' || c = '\r'

/-- Whether a document may hold a character: no control characters but white space, and neither of
the two last code points of the basic plane. -/
def isAllowed (c : Char) : Bool :=
  (0x20 ≤ c.toNat && c.toNat ≠ 0xFFFE && c.toNat ≠ 0xFFFF) || isSpace c

def nameStartRanges : Ranges :=
  [(0x3A, 0x3A), (0x41, 0x5A), (0x5F, 0x5F), (0x61, 0x7A), (0xC0, 0xD6), (0xD8, 0xF6),
   (0xF8, 0x2FF), (0x370, 0x37D), (0x37F, 0x1FFF), (0x200C, 0x200D), (0x2070, 0x218F),
   (0x2C00, 0x2FEF), (0x3001, 0xD7FF), (0xF900, 0xFDCF), (0xFDF0, 0xFFFD), (0x10000, 0xEFFFF)]

def nameMiddleRanges : Ranges :=
  [(0x2D, 0x2E), (0x30, 0x39), (0xB7, 0xB7), (0x300, 0x36F), (0x203F, 0x2040)]

def isNameStart (c : Char) : Bool :=
  nameStartRanges.contains c.toNat

def isNameChar (c : Char) : Bool :=
  isNameStart c || nameMiddleRanges.contains c.toNat

def skipSpace (text : List Char) : List Char :=
  text.dropWhile isSpace

def space? : List Char → Option (List Char)
  | c :: rest => if isSpace c then some (skipSpace rest) else none
  | [] => none

/-- Take a fixed text off the front. -/
def after? (expected : String) (text : List Char) : Option (List Char) :=
  if expected.toList.isPrefixOf text then some (text.drop expected.length) else none

/-- Drop everything up to and including a mark; what is dropped must be allowed. -/
def skipPast? (mark : String) : List Char → Option (List Char)
  | [] => none
  | c :: rest =>
      match after? mark (c :: rest) with
      | some behind => some behind
      | none => if isAllowed c then skipPast? mark rest else none

/-- Read a name, which may hold colons. -/
def name? : List Char → Option (List Char × List Char)
  | c :: rest =>
      if isNameStart c then some (c :: rest.takeWhile isNameChar, rest.dropWhile isNameChar)
      else none
  | [] => none

structure QualifiedName where
  /-- What stands in front of the colon; empty without a colon. -/
  qualifier : List Char
  name : List Char
  deriving Repr, DecidableEq

def startsName (text : List Char) : Bool :=
  text.head?.any isNameStart

/-- Part a row of name characters at its colon. -/
def QualifiedName.ofChars? (written : List Char) : Option QualifiedName :=
  let first := written.takeWhile (· ≠ ':')
  match written.dropWhile (· ≠ ':') with
  | [] => if startsName first then some ⟨[], first⟩ else none
  | _ :: second =>
      if (first.isEmpty || startsName first) && startsName second && !second.contains ':' then
        some ⟨first, second⟩
      else none

def qualifiedName? (text : List Char) : Option (QualifiedName × List Char) :=
  let (written, rest) := text.span isNameChar
  (QualifiedName.ofChars? written).map fun name => (name, rest)

end Chronogram.Xml
