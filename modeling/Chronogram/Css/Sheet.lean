import Chronogram.Css.Declaration
import Chronogram.Css.Selector.Reader

/-!
Style sheets.

A sheet is a row of rules. Each gives one or more selectors and the declarations for the elements
that they are about. What starts with an at sign is passed over. A list of declarations that cannot
be read to its end ends with its block. Rules apply in the order of their selectors, the more
specific ones later.
-/

namespace Chronogram.Css

open Xml

/-- Declarations for the elements that a selector is about. -/
structure Rule where
  selector : Selector
  declarations : List Declaration

/-- Drop the rest of a block with its closing brace; `depth` counts the blocks that were opened in
it. -/
def skipBlock : Nat → List Char → List Char
  | _, [] => []
  | depth, c :: rest =>
      if c = '{' then skipBlock (depth + 1) rest
      else if c = '}' then if depth = 0 then rest else skipBlock (depth - 1) rest
      else skipBlock depth rest

/-- Drop what follows an at sign. -/
def skipAtRule (text : List Char) : List Char :=
  match identifier text with
  | .error stopped => stopped
  | .ok (_, rest) =>
      match rest.dropWhile fun c => c ≠ ';' && c ≠ '{' with
      | ';' :: behind => behind
      | '{' :: behind => skipBlock 0 behind
      | behind => behind

/-- Read the declarations of a block behind its opening brace; the answer also says where the reader
stopped. Every round takes at least one character, which the fuel bounds. -/
def blockFrom : Nat → List Declaration → List Char → List Declaration × List Char
  | 0, seen, text => (seen.reverse, text)
  | _, seen, [] => (seen.reverse, [])
  | fuel + 1, seen, c :: text =>
      if c = '}' then (seen.reverse, c :: text)
      else
        match declaration (c :: text) with
        | .ok (given, rest) => blockFrom fuel (given :: seen) rest
        | .error stopped => (seen.reverse, skipBlock 0 stopped)

/-- Read selectors between commas up to an opening brace; `seen` holds those before, the last one
first. There are none if the text ends before. Every round takes at least one character, which the
fuel bounds. -/
def selectorsFrom : Nat → List Selector → List Char → List Selector × List Char
  | 0, _, text => ([], text)
  | fuel + 1, seen, text =>
      let (found, rest) := selector text
      let seen := found.toList ++ seen
      match skipSpace rest with
      | [] => ([], [])
      | '{' :: behind => (seen.reverse, behind)
      | ',' :: behind => selectorsFrom fuel seen behind
      | behind =>
          match behind.dropWhile (· ≠ '{') with
          | _ :: behind => (seen.reverse, behind)
          | [] => ([], [])

/-- Read selectors and their declarations; the answer also says where the reader stopped. -/
def rules (text : List Char) : List Rule × List Char :=
  let (selectors, rest) := selectorsFrom (text.length + 1) [] text
  let (declarations, rest) := blockFrom (rest.length + 1) [] rest
  let rest := match rest with
    | '}' :: behind => behind
    | _ => rest
  (if declarations.isEmpty then [] else selectors.map (⟨·, declarations⟩), rest)

/-- Read the rules of a text. Every round takes at least one character, which the fuel bounds. -/
def rulesFrom : Nat → List Char → List Rule
  | 0, _ => []
  | fuel + 1, text =>
      match skipComments? text with
      | none => []
      | some [] => []
      | some ('@' :: rest) => rulesFrom fuel (skipAtRule rest)
      | some rest =>
          let (found, rest) := rules rest
          found ++ rulesFrom fuel rest

/-- Rules in the order in which they apply. -/
structure Sheet where
  rules : List Rule

def Sheet.ofTexts (texts : List (List Char)) : Sheet :=
  let found := texts.flatMap fun text => rulesFrom (text.length + 1) text
  ⟨found.mergeSort fun less more =>
    less.selector.specificity.atMost more.selector.specificity⟩

/-- What a sheet says about an element with others around it, in the order in which it applies. -/
def Sheet.declarationsFor (sheet : Sheet) (rank : Rank) (outer : List Rank) :
    List Declaration :=
  (sheet.rules.filter (·.selector.isAbout rank outer)).flatMap Rule.declarations

end Chronogram.Css
