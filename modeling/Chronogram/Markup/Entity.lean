import Chronogram.Markup.NamedReference
import Chronogram.Text.Numeral

/-!
Decoding of character references in markup text.

One pass from left to right replaces each reference by the characters it stands for. Known are the
five references that `Chronogram.Markup.escape` writes, numeric references in decimal or
hexadecimal, and the names of HTML documents; an ampersand that starts none of them stands for
itself. As in HTML documents the final semicolon of a numeric reference and of the oldest names may
be missing.
-/

namespace Chronogram.Markup

open Text

/-- The references that escaping writes, without the ampersand. No other name starts with one of
them. -/
def escapeReferences : List (List Char × Char) :=
  [("amp;".toList, '&'), ("quot;".toList, '"'), ("apos;".toList, '\''), ("gt;".toList, '>'),
   ("lt;".toList, '<')]

/-- What the numbers 128 to 159 stand for in HTML documents, which read them as the characters
that the code page 1252 has there; zero marks a number that stands for itself. -/
def controlReplacements : List Nat :=
  [0x20AC, 0, 0x201A, 0x192, 0x201E, 0x2026, 0x2020, 0x2021, 0x2C6, 0x2030, 0x160, 0x2039, 0x152,
   0, 0x17D, 0, 0, 0x2018, 0x2019, 0x201C, 0x201D, 0x2022, 0x2013, 0x2014, 0x2DC, 0x2122, 0x161,
   0x203A, 0x153, 0, 0x17E, 0x178]

/-- The character a numeric reference stands for; numbers that are no character become the
replacement character. -/
def charOfReference (code : Nat) : Char :=
  if code = 0 then '\uFFFD'
  else if 0x80 ≤ code ∧ code ≤ 0x9F then
    match controlReplacements[code - 0x80]? with
    | some (replacement + 1) => Char.ofNat (replacement + 1)
    | _ => Char.ofNat code
  else if code.isValidChar then Char.ofNat code
  else '\uFFFD'

def hexValue? (c : Char) : Option Nat :=
  if c.isDigit then some (c.toNat - '0'.toNat)
  else if 'a' ≤ c ∧ c ≤ 'f' then some (c.toNat - 'a'.toNat + 10)
  else if 'A' ≤ c ∧ c ≤ 'F' then some (c.toNat - 'A'.toNat + 10)
  else none

def hexValue (digits : List Char) : Nat :=
  digits.foldl (fun seen c => 16 * seen + (hexValue? c).getD 0) 0

/-- One, if a semicolon stands in front. -/
def semicolonLength : List Char → Nat
  | ';' :: _ => 1
  | _ => 0

/-- A numeric reference behind its ampersand and number sign: the character and the number of
characters read. -/
def numericReference? : List Char → Option (Char × Nat)
  | marker :: rest =>
      if marker = 'x' ∨ marker = 'X' then
        let digits := rest.takeWhile fun c => (hexValue? c).isSome
        if digits.isEmpty then none
        else some (charOfReference (hexValue digits),
          1 + digits.length + semicolonLength (rest.drop digits.length))
      else
        let digits := (marker :: rest).takeWhile Char.isDigit
        if digits.isEmpty then none
        else some (charOfReference (Numeral.valueFrom 0 digits),
          digits.length + semicolonLength ((marker :: rest).drop digits.length))
  | [] => none

/-- A reference that escaping writes, behind its ampersand. -/
def escapeReference? (text : List Char) : Option (Char × Nat) :=
  escapeReferences.findSome? fun (name, c) =>
    if name.isPrefixOf text then some (c, name.length) else none

/-- A reference behind its ampersand: the characters it stands for and the number of characters
read. -/
def reference? (text : List Char) : Option (List Char × Nat) :=
  match text with
  | '#' :: rest => (numericReference? rest).map fun (c, used) => ([c], used + 1)
  | _ =>
      match escapeReference? text with
      | some (c, used) => some ([c], used)
      | none => NamedReference.ofText? text

/-- Decode a text after passing over the rest of a reference that has been replaced already. -/
def decodeAfter : Nat → List Char → List Char
  | _, [] => []
  | pending + 1, _ :: rest => decodeAfter pending rest
  | 0, c :: rest =>
      if c = '&' then
        match reference? rest with
        | some (meant, used) => meant ++ decodeAfter used rest
        | none => c :: decodeAfter 0 rest
      else c :: decodeAfter 0 rest

/-- Replace every reference in a markup text by the character it stands for. -/
def decode (text : List Char) : List Char :=
  decodeAfter 0 text

end Chronogram.Markup
