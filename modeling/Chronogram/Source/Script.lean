import Chronogram.Source.Comment
import Chronogram.Source.Macros
import Chronogram.Text.Lines

/-!
From text to the lines that hold statements.

Every line of the text is exactly one of three things: nothing, because it is blank or a comment;
the definition of a macro; or a statement. Definitions are collected over the whole text before any
statement is expanded, so they may stand below their uses. Where a name is defined more than once
the last definition counts.
-/

namespace Chronogram.Source

open Text

/-- A line of a text with its number, counted from one. -/
structure Line where
  number : Nat
  text : String
  deriving Repr, DecidableEq

inductive RawLine where
  | nothing
  | definition (found : Definition)
  | statement (text : List Char)
  deriving Repr, DecidableEq

/-- Whether the first character that is not blank starts a comment. -/
def isCommentLine (raw : List Char) : Bool :=
  (trimStart raw).head? == some '#'

def RawLine.ofText (raw : List Char) : RawLine :=
  if isCommentLine raw then .nothing
  else
    let text := trim (stripComment raw)
    if text.isEmpty then .nothing
    else match Definition.read? text with
      | some found => .definition found
      | none => .statement text

def RawLine.definition? : RawLine → Option Definition
  | .definition found => some found
  | _ => none

def RawLine.statement? : RawLine → Option (List Char)
  | .statement text => some text
  | _ => none

def numberedLines (text : String) : List (RawLine × Nat) :=
  ((lines text.toList).map RawLine.ofText).zipIdx 1

def definitions (raws : List (RawLine × Nat)) : List (Definition × Nat) :=
  raws.filterMap fun (raw, number) => raw.definition?.map fun found => (found, number)

/-- Store definitions one after the other, so that the last one of a name counts. -/
def Macros.ofDefinitions (found : List (Definition × Nat)) : Macros :=
  Table.ofList (found.map fun (entry, _) => (entry.name, entry.text))

/-- Expand a statement; a statement of which nothing is left is dropped. -/
def expandLine? (macros : Macros) (raw : RawLine) (number : Nat) : Option Line :=
  raw.statement?.bind fun text =>
    let expanded := trim (macros.expand text)
    if expanded.isEmpty then none else some ⟨number, String.ofList expanded⟩

/-- A text taken apart: its statements, expanded and with their line numbers, and its macros. -/
structure Script where
  lines : List Line
  macros : Macros

def Script.ofText (text : String) : Script :=
  let raws := numberedLines text
  let macros := Macros.ofDefinitions (definitions raws)
  { lines := raws.filterMap fun (raw, number) => expandLine? macros raw number
    macros }

/-- The definitions whose name has been defined on an earlier line. -/
def redefinitions : List (Definition × Nat) → List String → List (Definition × Nat)
  | [], _ => []
  | (entry, number) :: rest, seen =>
      if seen.contains entry.name then (entry, number) :: redefinitions rest seen
      else redefinitions rest (entry.name :: seen)

end Chronogram.Source
