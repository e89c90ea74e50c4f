import Chronogram.Css.Scan
import Chronogram.Css.Selector

/-!
Reading selectors.

A selector ends in front of a comma or an opening brace. Where it cannot be read there is none, but
the reader still says where it stopped.
-/

namespace Chronogram.Css

def Condition.ofName? (name : List Char) : Option Condition :=
  if name = "first-child".toList then some .firstChild
  else if ["link", "visited", "hover", "active", "focus"].any (·.toList = name) then
    some .interaction
  else none

structure PartialSelector where
  /-- The compounds so far, the last one first. -/
  compounds : List Compound
  /-- The tie of the next compound. -/
  tie : Option Tie
  /-- Whether a new compound has to follow. -/
  isOpen : Bool

namespace PartialSelector

def start : PartialSelector := ⟨[], none, true⟩

def startCompound (selector : PartialSelector) (type : Option (List Char))
    (conditions : List Condition) : PartialSelector :=
  ⟨⟨selector.tie, type, conditions⟩ :: selector.compounds, none, false⟩

/-- Add a condition to the last compound, or start one with it. -/
def addCondition (selector : PartialSelector) (condition : Condition) : PartialSelector :=
  match selector.tie, selector.compounds with
  | none, last :: before =>
      ⟨{ last with conditions := last.conditions ++ [condition] } :: before, none, false⟩
  | _, _ => selector.startCompound none [condition]

def addTie (selector : PartialSelector) (tie : Tie) : PartialSelector :=
  { selector with tie := some tie, isOpen := true }

def finish? (selector : PartialSelector) : Option Selector :=
  if selector.isOpen || selector.compounds.isEmpty then none else some ⟨selector.compounds⟩

end PartialSelector

def attributeCondition (text : List Char) : Except (List Char) (Condition × List Char) := do
  let (name, rest) ← identifier text
  let (test, rest) ← match rest with
    | ']' :: _ => .ok (ValueTest.exists, rest)
    | '=' :: behind => (textValue behind).map fun (value, rest) => (.equals value, rest)
    | '~' :: '=' :: behind => (textValue behind).map fun (value, rest) => (.includes value, rest)
    | '|' :: '=' :: behind => (textValue behind).map fun (value, rest) => (.startsWith value, rest)
    | _ => .error rest
  match rest with
  | ']' :: behind => .ok (.value name test, behind)
  | _ => .error rest

/-- Read a condition behind its colon. Languages are not told apart, and a condition that is not
known is no selector. -/
def namedCondition (text : List Char) : Except (List Char) (Condition × List Char) := do
  let (name, rest) ← identifier text
  if name = "lang".toList then
    match rest with
    | '(' :: behind =>
        match behind.dropWhile (· ≠ ')') with
        | _ :: after =>
            if (behind.takeWhile (· ≠ ')')).all isSpace then .error after
            else .ok (.interaction, after)
        | [] => .error []
    | _ => .error rest
  else
    match Condition.ofName? name with
    | some condition => .ok (condition, rest)
    | none => .error rest

/-- Drop comments and the white space behind each, or say where the attempt stopped. No other slash
stands here. Every round takes at least two characters, which the fuel bounds. -/
def skipRemarks : Nat → List Char → Except (List Char) (List Char)
  | fuel + 1, '/' :: '*' :: rest =>
      match comment? rest with
      | some rest => skipRemarks fuel (skipSpace rest)
      | none => .error []
  | _, '/' :: rest => .error rest
  | _, text => .ok text

/-- Follow a selector to its end. Every round takes at least one character, which the fuel bounds.
-/
def selectorFrom : Nat → PartialSelector → List Char → Option Selector × List Char
  | 0, _, text => (none, text)
  | _ + 1, selector, [] => (selector.finish?, [])
  | fuel + 1, selector, c :: rest =>
      let next (found : Except (List Char) (Condition × List Char)) :
          Option Selector × List Char :=
        match found with
        | .ok (condition, behind) => selectorFrom fuel (selector.addCondition condition) behind
        | .error stopped => (none, stopped)
      let named (name : String) (test : List Char → ValueTest) :
          Except (List Char) (Condition × List Char) :=
        (identifier rest).map fun (value, behind) =>
          (.value name.toList (test value), behind)
      if c = '#' then next (named "id" .equals)
      else if c = '.' then next (named "class" .includes)
      else if c = '[' then next (attributeCondition rest)
      else if c = ':' then next (namedCondition rest)
      else if c = '*' then
        if selector.isOpen then selectorFrom fuel (selector.startCompound none []) rest
        else (none, c :: rest)
      else if c = '>' || c = '+' then
        if selector.isOpen then (none, c :: rest)
        else selectorFrom fuel (selector.addTie (if c = '>' then .child else .sibling)) rest
      else if c = ',' || c = '{' then (selector.finish?, c :: rest)
      else if c = '/' then
        match rest with
        | '*' :: behind =>
            match comment? behind with
            | some behind => selectorFrom fuel selector behind
            | none => (none, [])
        | _ => (selector.finish?, c :: rest)
      else if isSpace c then
        if selector.isOpen then selectorFrom fuel selector (skipSpace rest)
        else
          match skipRemarks (rest.length + 1) (skipSpace rest) with
          | .error stopped => (none, stopped)
          | .ok behind =>
              match behind with
              | '>' :: _ | '+' :: _ | ',' :: _ | '{' :: _ | [] => selectorFrom fuel selector behind
              | _ => selectorFrom fuel (selector.addTie .descendant) behind
      else
        match identifier (c :: rest) with
        | .error stopped => (none, stopped)
        | .ok (name, behind) =>
            if selector.isOpen then selectorFrom fuel (selector.startCompound (some name) []) behind
            else (none, behind)

/-- Read a selector; the answer also says where the reader stopped. -/
def selector (text : List Char) : Option Selector × List Char :=
  selectorFrom (text.length + 1) .start text

end Chronogram.Css
