import Chronogram.Xml.Site

/-!
Selectors: which elements a rule is about.

A selector is a row of compounds, each of which looks at one element. The last compound looks at the
element in question; the others look at elements around it or before it, as their ties say. The more
specific of two selectors wins: the names it asks for count most, then its other conditions, then
its types.
-/

namespace Chronogram.Css

open Xml

inductive ValueTest where
  | exists
  | equals (value : List Char)
  /-- One of the words of the attribute is the value. -/
  | includes (value : List Char)
  /-- The attribute is the value or goes on with a hyphen behind it. -/
  | startsWith (value : List Char)
  deriving Repr, DecidableEq

/-- Cut a text at single blanks, with the reversed characters of the current word in the
accumulator. -/
def wordsFrom (seen : List Char) : List Char → List (List Char)
  | [] => [seen.reverse]
  | c :: rest => if c = ' ' then seen.reverse :: wordsFrom [] rest else wordsFrom (c :: seen) rest

def ValueTest.passes (given : List Char) : ValueTest → Bool
  | .exists => true
  | .equals value => given = value
  | .includes value => (wordsFrom [] given).contains value
  | .startsWith value => given = value || (value ++ ['-']).isPrefixOf given

inductive Condition where
  | value (name : List Char) (test : ValueTest)
  | firstChild
  /-- A condition on what a reader does with the document, which never holds. -/
  | interaction
  deriving Repr, DecidableEq

def Condition.holds (rank : Rank) : Condition → Bool
  | .value name test => (rank.head.value? name).any test.passes
  | .firstChild => rank.before.isEmpty
  | .interaction => false

/-- How the element of a compound lies to the element of the compound before it. -/
inductive Tie where
  | descendant
  | child
  | sibling
  deriving Repr, DecidableEq

structure Compound where
  /-- The tie to the compound before; the first one has none. -/
  tie : Option Tie
  type : Option (List Char)
  conditions : List Condition
  deriving Repr, DecidableEq

/-- Whether an element meets the conditions of a compound. -/
def Compound.fits (compound : Compound) (rank : Rank) : Bool :=
  compound.type.all (· = rank.head.name.name) && compound.conditions.all (·.holds rank)

/-- The compounds of a selector, the last one first. -/
structure Selector where
  compounds : List Compound
  deriving Repr, DecidableEq

/-- The elements around an element, the innermost first, each with those around it. -/
def withSurroundings : List Rank → List (Rank × List Rank)
  | [] => []
  | rank :: outer => (rank, outer) :: withSurroundings outer

/-- Whether compounds, the last one first, match an element with others around it. -/
def matchesFrom : List Compound → Rank → List Rank → Bool
  | [], _, _ => true
  | compound :: rest, rank, outer =>
      compound.fits rank &&
        match compound.tie with
        | none => true
        | some .child =>
            match outer with
            | [] => false
            | parent :: above => matchesFrom rest parent above
        | some .descendant =>
            (withSurroundings outer).any fun (ancestor, above) =>
              matchesFrom rest ancestor above
        | some .sibling =>
            match rank.before with
            | [] => false
            | head :: before => matchesFrom rest ⟨head, before⟩ outer

/-- Whether a selector is about an element with others around it. -/
def Selector.isAbout (selector : Selector) (rank : Rank) (outer : List Rank) : Bool :=
  matchesFrom selector.compounds rank outer

structure Specificity where
  names : Nat
  conditions : Nat
  types : Nat
  deriving Repr, DecidableEq

def Condition.isName : Condition → Bool
  | .value name _ => name = "id".toList
  | _ => false

/-- How specific a selector is. Each count ends at 255. -/
def Selector.specificity (selector : Selector) : Specificity :=
  let conditions := selector.compounds.flatMap Compound.conditions
  { names := min 255 (conditions.countP Condition.isName)
    conditions := min 255 (conditions.countP (!·.isName))
    types := min 255 (selector.compounds.countP (·.type.isSome)) }

def Specificity.atMost (less more : Specificity) : Bool :=
  less.names < more.names || (less.names = more.names &&
    (less.conditions < more.conditions || (less.conditions = more.conditions &&
      less.types ≤ more.types)))

end Chronogram.Css
