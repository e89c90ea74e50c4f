import Chronogram.Xml.Content

/-!
Whole documents.

A document may start with a declaration and with a document type, whose internal part defines
entities. Then follows the root element. Comments, instructions and white space may stand around all
of them. `nodes?` gives the nodes of a well-formed document. All elements have to be closed in the
end; where an entity closes the root element, others may follow it.
-/

namespace Chronogram.Xml

/-- Pass over white space, comments and instructions; the fuel bounds their number. -/
def misc? : Nat → List Char → Option (List Char)
  | 0, _ => none
  | fuel + 1, text =>
      let rest := skipSpace text
      match after? "<!--" rest, after? "<?" rest with
      | some behind, _ => (comment? behind).bind (misc? fuel)
      | none, some behind => (instruction? behind).bind (misc? fuel)
      | none, none => some rest

def declarationGap? (text : List Char) : Option (List Char) :=
  if text.head?.any isSpace then some (skipSpace text)
  else if "?>".toList.isPrefixOf text then some text
  else none

def declarationPart? (word : String) (text : List Char) : Option (List Char) :=
  if word.toList.isPrefixOf text then
    (assignment? text).bind fun (_, _, rest) => declarationGap? rest
  else some text

/-- Pass over the declaration, if there is one. It starts with the version. -/
def declaration? (text : List Char) : Option (List Char) :=
  match after? "<?xml " text with
  | none => some text
  | some rest => do
      let rest := skipSpace rest
      if "version".toList.isPrefixOf rest then
        let rest ← declarationPart? "version" rest
        let rest ← declarationPart? "encoding" rest
        let rest ← declarationPart? "standalone" rest
        after? "?>" (skipSpace rest)
      else none

/-- Pass over the place of an external text: one literal for a system, two for the public. -/
def externalPlace? (text : List Char) : Option (List Char) := do
  match after? "SYSTEM" text, after? "PUBLIC" text with
  | some rest, _ => do
      let (_, rest) ← (space? rest).bind literal?
      some rest
  | none, some rest => do
      let (_, rest) ← (space? rest).bind literal?
      let (_, rest) ← (space? rest).bind literal?
      some rest
  | none, none => none

/-- Read the definition of an entity behind its keyword. One whose text is elsewhere defines
nothing. -/
def entity? (entities : Entities) (text : List Char) : Option (Entities × List Char) := do
  let rest ← space? text
  let (isParameter, rest) ← match rest with
    | '%' :: behind => (space? behind).map fun rest => (true, rest)
    | _ => some (false, rest)
  let (name, rest) ← name? rest
  let rest ← space? rest
  let (entities, rest) ← match literal? rest with
    | some (text, behind) => some (entities ++ [(name, text)], behind)
    | none => do
        let rest ← externalPlace? rest
        match after? "NDATA" (skipSpace rest) with
        | some behind =>
            if isParameter then none
            else do
              let (_, behind) ← (space? behind).bind name?
              some (entities, behind)
        | none => some (entities, rest)
  let rest ← after? ">" (skipSpace rest)
  some (entities, rest)

/-- Read the internal part of a document type, behind its opening bracket; the fuel bounds the
number of definitions. -/
def internalPart? : Nat → Entities → List Char → Option (Entities × List Char)
  | 0, _, _ => none
  | fuel + 1, entities, text =>
      let rest := skipSpace text
      match rest with
      | ']' :: behind =>
          (after? ">" (skipSpace behind)).map fun behind => (entities, behind)
      | _ =>
          match after? "<!ENTITY" rest with
          | some behind =>
              (entity? entities behind).bind fun (entities, behind) =>
                internalPart? fuel entities behind
          | none =>
              let behind := match after? "<!--" rest, after? "<?" rest with
                | some behind, _ => comment? behind
                | none, some behind => instruction? behind
                | none, none =>
                    if ["<!ELEMENT", "<!ATTLIST", "<!NOTATION"].any fun word =>
                        word.toList.isPrefixOf rest then
                      (rest.dropWhile (· ≠ '>')).tail?
                    else none
              behind.bind (internalPart? fuel entities)

/-- Read the document type, if there is one, and the entities it defines. -/
def documentType? (fuel : Nat) (text : List Char) : Option (Entities × List Char) :=
  match after? "<!DOCTYPE" text with
  | none => some ([], text)
  | some rest => do
      let (_, rest) ← (space? rest).bind name?
      let rest := skipSpace rest
      let rest := skipSpace ((externalPlace? rest).getD rest)
      match rest with
      | '>' :: behind => some ([], behind)
      | '[' :: behind => internalPart? fuel [] behind
      | _ => none

/-- The nodes of a well-formed document around and behind the root element, which is the first of
them. A byte order mark may stand in front. -/
def nodes? (text : List Char) : Option (List Node) := do
  let fuel := text.length + 1
  let rest ← declaration? ((after? "\uFEFF" text).getD text)
  let rest ← misc? fuel rest
  let (entities, rest) ← documentType? fuel rest
  let rest ← misc? fuel rest
  let (progress, rest) ← (after? "<" rest).bind (root? entities)
  let rest ← misc? fuel rest
  if rest.isEmpty && progress.stack.isEmpty && progress.nodes.any Node.isElement then
    some progress.nodes.reverse
  else none

end Chronogram.Xml
