import Chronogram.Css.Scan

/-!
Declarations: a name, a value and whether it is important.

A value is a row of terms, kept as it is written. Semicolons part declarations. A list ends at the
first declaration that cannot be read.
-/

namespace Chronogram.Css

/-- What a style sheet says about a property. -/
structure Declaration where
  name : List Char
  value : List Char
  isImportant : Bool
  deriving Repr, DecidableEq

/-- The digits of a number behind its first character, and its unit. -/
def skipNumber (text : List Char) : List Char :=
  let rest := text.dropWhile Char.isDigit
  let rest := match rest with
    | '.' :: behind => behind.dropWhile Char.isDigit
    | _ => rest
  match rest with
  | '%' :: behind => behind
  | _ => skipIdentifier rest

def isHexDigit (c : Char) : Bool :=
  c.isDigit || ('a' ≤ c && c ≤ 'f') || ('A' ≤ c && c ≤ 'F')

/-- Pass over a term: a colour, a number, a quoted text, a comma, a word or a function. The answer
says what follows it, or where the attempt stopped. -/
def term : List Char → Except (List Char) (List Char)
  | [] => .error []
  | c :: rest =>
      if c = '#' then
        match identifier rest with
        | .ok (_, behind) => .ok behind
        | .error behind => .ok (behind.dropWhile isHexDigit)
      else if c = '+' || c = '-' || c = '.' || c.isDigit then .ok (skipNumber rest)
      else if c = '"' || c = '\'' then (textValue (c :: rest)).map Prod.snd
      else if c = ',' then .ok rest
      else
        match identifier (c :: rest) with
        | .error behind => .error behind
        | .ok (_, '(' :: behind) =>
            match behind.dropWhile (· ≠ ')') with
            | _ :: behind => .ok behind
            | [] => .error []
        | .ok (_, behind) => .ok behind

/-- Pass over terms. The answer says what follows the last of them and where the attempt to read
another one stopped. Every round takes at least one character, which the fuel bounds. -/
def terms : Nat → List Char → List Char → Except (List Char) (List Char × List Char)
  | 0, last, text => .ok (last, text)
  | fuel + 1, last, text =>
      match term text with
      | .error stopped => .ok (last, stopped)
      | .ok behind =>
          match skipComments? behind with
          | none => .error []
          | some next => terms fuel behind next

/-- Drop white space and comments, which end the text if they are not closed. -/
def pastComments (text : List Char) : Except (List Char) (List Char) :=
  match skipComments? text with
  | some rest => .ok rest
  | none => .error []

/-- Read the mark of importance, if it is there. Another word behind the exclamation mark stays. -/
def importance (text : List Char) : Except (List Char) (Bool × List Char) :=
  match text with
  | '!' :: rest => do
      let rest ← pastComments rest
      if "important".toList.isPrefixOf rest then .ok (true, rest.drop "important".length)
      else .ok (false, rest)
  | _ => .ok (false, text)

/-- Drop semicolons and what stands between them. Every round takes at least one character, which
the fuel bounds. -/
def skipSemicolons : Nat → List Char → Except (List Char) (List Char)
  | fuel + 1, ';' :: rest => do
      let rest ← pastComments rest
      skipSemicolons fuel rest
  | _, text => .ok text

/-- Read a declaration and what parts it from the next one, or say where the attempt stopped. -/
def declaration (text : List Char) : Except (List Char) (Declaration × List Char) := do
  let rest ← pastComments text
  let rest := match rest with
    | '*' :: behind => behind
    | _ => rest
  let (name, rest) ← identifier rest
  let rest ← pastComments rest
  let rest ← match rest with
    | ':' :: behind => pastComments behind
    | _ => .error rest
  let (last, stopped) ← terms (rest.length + 1) rest rest
  let value := rest.take (rest.length - last.length)
  let rest ← pastComments stopped
  let (isImportant, rest) ← importance rest
  let rest ← pastComments rest
  let rest ← skipSemicolons (rest.length + 1) rest
  if value.isEmpty then .error rest else .ok (⟨name, value, isImportant⟩, rest)

/-- Read the declarations of a list that stands alone. Every round takes at least one character,
which the fuel bounds. -/
def declarationsFrom : Nat → List Char → List Declaration
  | 0, _ => []
  | fuel + 1, text =>
      match declaration text with
      | .ok (given, rest) => given :: declarationsFrom fuel rest
      | .error _ => []

def declarations (text : List Char) : List Declaration :=
  declarationsFrom (text.length + 1) text

end Chronogram.Css
