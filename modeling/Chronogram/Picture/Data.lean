import Chronogram.Markup.Entity
import Chronogram.Text.Ascii

/-!
Data that is written in an address.

An address can hold the data itself instead of the place where they lie. It names their kind and
gives the bytes, in which a percent sign and two digits stand for a byte. They may be in base 64:
four symbols for three bytes.
-/

namespace Chronogram.Picture

open Markup Text

inductive DataKind where
  | bitmap
  | picture
  /-- Nothing that tells bitmaps and pictures apart. -/
  | text
  deriving Repr, DecidableEq

/-- Data with their kind. -/
structure Data where
  kind : DataKind
  bytes : List UInt8

def isAddressSpace (c : Char) : Bool :=
  c = ' ' || c = '\t' || c = '\n' || c = '\r' || c = '\x0c'

/-- Drop white space on both sides. -/
def trimAddress (text : List Char) : List Char :=
  ((text.dropWhile isAddressSpace).reverse.dropWhile isAddressSpace).reverse

/-- Whether a character can stand in the name of a kind. -/
def isKindChar (c : Char) : Bool :=
  c.isAlphanum || "!#$%&'*+-.^_`|~".toList.contains c

/-- The kinds of data by their names. A name that is no pair of words counts as the one for text. -/
def DataKind.ofName? (name : List Char) : Option DataKind :=
  let name := asciiLower (trimAddress name)
  let first := name.takeWhile (· ≠ '/')
  let second := name.drop (first.length + 1)
  let isPair := [first, second].all fun word => !word.isEmpty && word.all isKindChar
  if !isPair then some .text
  else match String.ofList name with
    | "image/jpg" => some .bitmap
    | "image/jpeg" => some .bitmap
    | "image/png" => some .bitmap
    | "image/gif" => some .bitmap
    | "image/webp" => some .bitmap
    | "image/svg+xml" => some .picture
    | "text/plain" => some .text
    | _ => none

/-- The part of a header in front of its mark for base 64, if it ends in that mark. -/
def beforeBase64? (header : List Char) : Option (List Char) :=
  let mark := "base64".toList.reverse
  let text := (header.reverse).filter fun c => c ≠ '\t' && c ≠ '\n' && c ≠ '\r'
  if asciiLower (text.take mark.length) = mark then
    match (text.drop mark.length).dropWhile (· = ' ') with
    | ';' :: rest => some rest.reverse
    | _ => none
  else none

/-- The bytes of a text in which a percent sign and two hexadecimal digits stand for a byte. Tabs
and ends of lines do not count. -/
def percentBytes : List UInt8 → List UInt8
  | 0x25 :: high :: low :: rest =>
      match hexValue? (Char.ofNat high.toNat), hexValue? (Char.ofNat low.toNat) with
      | some h, some l => UInt8.ofNat (16 * h + l) :: percentBytes rest
      | _, _ => 0x25 :: percentBytes (high :: low :: rest)
  | byte :: rest =>
      if byte = 9 || byte = 10 || byte = 13 then percentBytes rest else byte :: percentBytes rest
  | [] => []

def symbolValue? (byte : UInt8) : Option Nat :=
  let c := Char.ofNat byte.toNat
  if c.isUpper then some (c.toNat - 'A'.toNat)
  else if c.isLower then some (c.toNat - 'a'.toNat + 26)
  else if c.isDigit then some (c.toNat - '0'.toNat + 52)
  else if c = '+' then some 62
  else if c = '/' then some 63
  else none

/-- The bytes of the values of symbols: three for four of them, and fewer for the last ones. -/
def bytesOfValues : List Nat → List UInt8
  | a :: b :: c :: d :: rest =>
      UInt8.ofNat (4 * a + b / 16) :: UInt8.ofNat (16 * (b % 16) + c / 4) ::
        UInt8.ofNat (64 * (c % 4) + d) :: bytesOfValues rest
  | [a, b, c] => [UInt8.ofNat (4 * a + b / 16), UInt8.ofNat (16 * (b % 16) + c / 4)]
  | [a, b] => [UInt8.ofNat (4 * a + b / 16)]
  | _ => []

/-- Read bytes in base 64. White space does not count. Equality signs may fill the last four
symbols. -/
def base64? (bytes : List UInt8) : Option (List UInt8) := do
  let symbols := bytes.filter fun byte => !isAddressSpace (Char.ofNat byte.toNat)
  let isFilling (byte : UInt8) : Bool := byte = 0x3D
  let filling := symbols.countP isFilling
  let values ← (symbols.take (symbols.length - filling)).mapM symbolValue?
  if [(0, 0), (2, 2), (2, 0), (3, 1), (3, 0)].contains (values.length % 4, filling) then
    some (bytesOfValues values)
  else none

def Data.read? (address : List Char) : Option Data := do
  let text := address.dropWhile (· ≤ ' ')
  if asciiLower (text.take 5) ≠ "data:".toList then none
  else
    let text := (text.drop 5).takeWhile (· ≠ '#')
    let header := text.takeWhile (· ≠ ',')
    if header.length = text.length then none
    else
      let body := percentBytes (String.ofList (text.drop (header.length + 1))).toUTF8.toList
      let header := trimAddress header
      let (header, bytes) ← match beforeBase64? header with
        | some header => (base64? body).map fun bytes => (header, bytes)
        | none => some (header, body)
      let kind ← DataKind.ofName? (header.takeWhile (· ≠ ';'))
      some ⟨kind, bytes⟩

end Chronogram.Picture
