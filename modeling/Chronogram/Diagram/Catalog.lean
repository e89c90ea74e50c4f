/-!
The states of one lifeline.

A catalog gives labels to state indices. Indices may be left out; such a slot is a hole and has no
label.
-/

namespace Chronogram

/-- State labels by index, with holes. -/
structure Catalog where
  slots : List (Option String)
  deriving Repr, DecidableEq, Inhabited

namespace Catalog

def empty : Catalog := ⟨[]⟩

/-- Give a label to an index, opening holes below it where needed. -/
def insert (catalog : Catalog) (index : Nat) (label : String) : Catalog :=
  if index < catalog.slots.length then ⟨catalog.slots.set index (some label)⟩
  else ⟨catalog.slots ++ List.replicate (index - catalog.slots.length) none ++ [some label]⟩

def get? (catalog : Catalog) (index : Nat) : Option String :=
  (catalog.slots[index]?).join

def position? (catalog : Catalog) (label : String) : Option Nat :=
  catalog.slots.findIdx? (· = some label)

/-- The number of slots, holes included. -/
def size (catalog : Catalog) : Nat :=
  catalog.slots.length

def isEmpty (catalog : Catalog) : Bool :=
  catalog.slots.isEmpty

/-- The indices that have a label, with their labels, in increasing order. -/
def labels (catalog : Catalog) : List (Nat × String) :=
  catalog.slots.zipIdx.filterMap fun (slot, index) => slot.map fun label => (index, label)

end Catalog

end Chronogram
