/-!
The marks that style sheets are made of.

A reader that fails may have passed over some of the text; where others go on after it, the answer
says where it stopped.
-/

namespace Chronogram.Css

/-- White space between the parts of a style sheet. -/
def isSpace (c : Char) : Bool :=
  c = ' ' || c = '\t' || c = '\n' || c = '\r' || c = '\x0c'

def skipSpace (text : List Char) : List Char :=
  text.dropWhile isSpace

def comment? : List Char → Option (List Char)
  | [] => none
  | '*' :: '/' :: rest => some rest
  | _ :: rest => comment? rest

/-- Drop white space and comments; a comment that is not closed is a failure. Every round takes at
least two characters, which the fuel bounds. -/
def skipCommentsFrom? : Nat → List Char → Option (List Char)
  | 0, text => some text
  | fuel + 1, text =>
      match skipSpace text with
      | '/' :: '*' :: rest => (comment? rest).bind (skipCommentsFrom? fuel)
      | rest => some rest

def skipComments? (text : List Char) : Option (List Char) :=
  skipCommentsFrom? (text.length + 1) text

/-- Whether a character can start an identifier, behind an optional hyphen. -/
def isIdentifierStart (c : Char) : Bool :=
  c = '_' || c.isAlpha || (0x240 ≤ c.toNat && c.toNat ≤ 0x377)

def isIdentifierChar (c : Char) : Bool :=
  isIdentifierStart c || c.isDigit || c = '-'

/-- Read an identifier, or say where the attempt stopped. A hyphen at the end of the text is one. -/
def identifier (text : List Char) : Except (List Char) (List Char × List Char) :=
  let (hyphen, rest) := match text with
    | '-' :: rest => (['-'], rest)
    | _ => ([], text)
  match rest with
  | [] => if hyphen.isEmpty then .error [] else .ok (hyphen, [])
  | c :: behind =>
      if isIdentifierStart c then
        .ok (hyphen ++ c :: behind.takeWhile isIdentifierChar, behind.dropWhile isIdentifierChar)
      else .error rest

def skipIdentifier (text : List Char) : List Char :=
  match identifier text with
  | .ok (_, rest) => rest
  | .error rest => rest

/-- Read up to a mark that no backslash stands before; `seen` holds what was read, last character
first, and the mark that opened it. -/
def quotedFrom? (mark : Char) (seen : List Char) : List Char → Option (List Char × List Char)
  | [] => none
  | c :: rest =>
      if c = mark && seen.head? ≠ some '\\' then some (seen.reverse.tail, rest)
      else quotedFrom? mark (c :: seen) rest

/-- Read a text in quotation marks, or an identifier, or say where the attempt stopped. -/
def textValue (text : List Char) : Except (List Char) (List Char × List Char) :=
  match text with
  | [] => .error []
  | c :: rest =>
      if c = '"' || c = '\'' then
        match quotedFrom? c [c] rest with
        | some found => .ok found
        | none => .error []
      else identifier text

end Chronogram.Css
