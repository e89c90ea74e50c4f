/-!
Tables that remember the order in which their keys came.

Storing under a new key appends an entry; storing under a known key replaces the value and keeps the
place. That no key occurs twice is part of the type.
-/

namespace Chronogram

/-- Values under distinct names, in the order of their first insertion. -/
structure Table (α : Type) where
  entries : List (String × α)
  nodup : (entries.map Prod.fst).Nodup

namespace Table

variable {α β : Type}

def empty : Table α :=
  ⟨[], List.nodup_nil⟩

instance : Inhabited (Table α) := ⟨empty⟩

def keys (table : Table α) : List String :=
  table.entries.map Prod.fst

def values (table : Table α) : List α :=
  table.entries.map Prod.snd

def size (table : Table α) : Nat :=
  table.entries.length

def get? (table : Table α) (key : String) : Option α :=
  table.entries.lookup key

def contains (table : Table α) (key : String) : Bool :=
  table.keys.contains key

/-- Rebuild every value from its name and old value. -/
def mapValues (f : String → α → β) (table : Table α) : Table β where
  entries := table.entries.map fun entry => (entry.1, f entry.1 entry.2)
  nodup := by simpa [List.map_map, Function.comp_def] using table.nodup

/-- Rebuild the value under one name, if there is one. -/
def modify (key : String) (f : α → α) (table : Table α) : Table α :=
  table.mapValues fun name value => if name = key then f value else value

/-- Append an entry under a new name. -/
def append (table : Table α) (key : String) (value : α) (fresh : key ∉ table.keys) : Table α where
  entries := table.entries ++ [(key, value)]
  nodup := by
    rw [List.map_append, List.nodup_append]
    refine ⟨table.nodup, by simp, ?_⟩
    intro name membership other equality same
    simp only [List.map_cons, List.map_nil, List.mem_singleton] at equality
    subst equality same
    exact fresh membership

def insert (table : Table α) (key : String) (value : α) : Table α :=
  if known : key ∈ table.keys then table.modify key fun _ => value
  else table.append key value known

/-- Store values one after the other. -/
def ofList (entries : List (String × α)) : Table α :=
  entries.foldl (fun table entry => table.insert entry.1 entry.2) empty

@[simp]
theorem keys_mapValues (f : String → α → β) (table : Table α) :
    (table.mapValues f).keys = table.keys := by
  simp [mapValues, keys, Function.comp_def]

@[simp]
theorem keys_modify (key : String) (f : α → α) (table : Table α) :
    (table.modify key f).keys = table.keys :=
  keys_mapValues _ table

/-- Storing keeps the order of the names and puts a new one last. -/
theorem keys_insert (table : Table α) (key : String) (value : α) :
    (table.insert key value).keys =
      if key ∈ table.keys then table.keys else table.keys ++ [key] := by
  by_cases known : key ∈ table.keys
  · simp [insert, known]
  · simp only [insert, known, ↓reduceDIte, ↓reduceIte]
    simp [append, keys]

end Table

end Chronogram
