import Chronogram.Xml.Node

/-!
Elements in their surroundings.

What a style sheet says about an element depends on the elements around it and before it. A `Site`
keeps them with the element. `visitAll` visits the elements of a document in the order of their
start tags.
-/

namespace Chronogram.Xml

/-- An element with its elder siblings. -/
structure Rank where
  head : Head
  /-- The elements before it with the same parent, the nearest first. -/
  before : List Head

/-- An element with what it holds and what stands around it. -/
structure Site where
  rank : Rank
  /-- The elements around it, the innermost first. -/
  outer : List Rank
  children : List Node

def Site.head (site : Site) : Head := site.rank.head

/-- The elements among nodes with given surroundings, for the elder siblings of the first. -/
def sitesFrom (outer : List Rank) (before : List Head) : List Node → List Site
  | [] => []
  | .element head children :: rest =>
      ⟨⟨head, before⟩, outer, children⟩ :: sitesFrom outer (head :: before) rest
  | _ :: rest => sitesFrom outer before rest

def Site.inner (site : Site) : List Site :=
  sitesFrom (site.rank :: site.outer) [] site.children

mutual

/-- Visit the elements of a node, for the elements around it and its elder siblings. -/
def visitNode {State : Type} (visit : State → Site → State) (outer : List Rank)
    (before : List Head) (state : State) : Node → State
  | .element head children =>
      let rank : Rank := ⟨head, before⟩
      visitNodes visit (rank :: outer) [] (visit state ⟨rank, outer, children⟩) children
  | _ => state

/-- Visit the elements of nodes that stand side by side. -/
def visitNodes {State : Type} (visit : State → Site → State) (outer : List Rank)
    (before : List Head) (state : State) : List Node → State
  | [] => state
  | node :: rest =>
      let before' := match node with
        | .element head _ => head :: before
        | _ => before
      visitNodes visit outer before' (visitNode visit outer before state node) rest

end

/-- Visit all elements of a document in the order of their start tags. -/
def visitAll {State : Type} (visit : State → Site → State) (state : State) (nodes : List Node) :
    State :=
  visitNodes visit [] [] state nodes

end Chronogram.Xml
