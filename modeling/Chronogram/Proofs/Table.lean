import Chronogram.Table
import Mathlib.Data.List.Induction
import Mathlib.Data.List.Nodup

/-!
What tables answer.

Every operation of a table is described by the value that it leaves under each name.
-/

namespace Chronogram.Table

variable {α β : Type} {table : Table α} {key : String}

@[ext]
theorem ext {first second : Table α} (same : first.entries = second.entries) : first = second := by
  cases first
  cases second
  cases same
  rfl

@[simp]
theorem contains_iff : table.contains key = true ↔ key ∈ table.keys := by
  simp [contains]

@[simp]
theorem get?_eq_none_iff : table.get? key = none ↔ key ∉ table.keys := by
  simp only [get?, keys, List.lookup_eq_none_iff, List.mem_map, not_exists, not_and]
  constructor
  · rintro absent entry membership rfl
    simpa using absent entry membership
  · intro absent entry membership
    simpa using fun same => absent entry membership same.symm

/-- Rebuilding the values keeps which names have one. -/
@[simp]
theorem get?_mapValues (f : String → α → β) (table : Table α) (key : String) :
    (table.mapValues f).get? key = (table.get? key).map (f key) := by
  obtain ⟨entries, nodup⟩ := table
  simp only [get?, mapValues]
  clear nodup
  induction entries with
  | nil => rfl
  | cons entry rest inductionHypothesis =>
      obtain ⟨name, value⟩ := entry
      by_cases same : key = name
      · simp [same]
      · have differ : (key == name) = false := by simpa using same
        simp [List.lookup_cons, differ, inductionHypothesis]

@[simp]
theorem mapValues_mapValues {γ : Type} (g : String → β → γ) (f : String → α → β)
    (table : Table α) :
    (table.mapValues f).mapValues g = table.mapValues fun name value => g name (f name value) := by
  ext1
  simp [mapValues, Function.comp_def]

/-- Only the names that have a value matter. -/
theorem mapValues_congr {f g : String → α → β}
    (same : ∀ key ∈ table.keys, ∀ value, f key value = g key value) :
    table.mapValues f = table.mapValues g := by
  ext1
  refine List.map_congr_left fun entry membership => ?_
  rw [same entry.1 (List.mem_map_of_mem membership)]

theorem get?_modify_self (f : α → α) : (table.modify key f).get? key = (table.get? key).map f := by
  simp [modify]

theorem get?_modify_of_ne {other : String} (f : α → α) (differs : other ≠ key) :
    (table.modify key f).get? other = table.get? other := by
  simp [modify, differs]

theorem exists_get? (known : key ∈ table.keys) : ∃ value, table.get? key = some value := by
  cases found : table.get? key with
  | none => exact absurd known (get?_eq_none_iff.mp found)
  | some value => exact ⟨value, rfl⟩

theorem mem_keys_of_get? {value : α} (found : table.get? key = some value) : key ∈ table.keys := by
  refine Classical.byContradiction fun absent => ?_
  simp [get?_eq_none_iff.mpr absent] at found

theorem get?_of_mem {entry : String × α} (stored : entry ∈ table.entries) :
    table.get? entry.1 = some entry.2 := by
  obtain ⟨entries, nodup⟩ := table
  simp only [get?] at stored ⊢
  induction entries with
  | nil => simp at stored
  | cons first rest inductionHypothesis =>
      rw [List.map_cons, List.nodup_cons] at nodup
      obtain ⟨fresh, distinct⟩ := nodup
      rcases List.mem_cons.mp stored with rfl | later
      · rw [List.lookup_cons_self]
      · have differ : (entry.1 == first.1) = false := by
          rw [beq_eq_false_iff_ne]
          intro same
          exact fresh (same ▸ List.mem_map_of_mem later)
        rw [List.lookup_cons, differ]
        exact inductionHypothesis distinct later

theorem mem_of_get? {value : α} (found : table.get? key = some value) :
    (key, value) ∈ table.entries := by
  obtain ⟨⟨name, other⟩, stored, rfl⟩ := List.mem_map.mp (mem_keys_of_get? found)
  obtain rfl : other = value := Option.some.inj ((get?_of_mem stored).symm.trans found)
  exact stored

theorem get?_eq_some_iff {value : α} :
    table.get? key = some value ↔ (key, value) ∈ table.entries :=
  ⟨mem_of_get?, get?_of_mem⟩

/-- The order of the entries does not matter. -/
theorem get?_of_perm {others : Table α} (reordered : others.entries.Perm table.entries)
    (key : String) : others.get? key = table.get? key := by
  ext value
  rw [get?_eq_some_iff, get?_eq_some_iff, reordered.mem_iff]

/-- Only the value that is changed matters. -/
theorem modify_congr {f g : α → α} {value : α} (found : table.get? key = some value)
    (same : f value = g value) : table.modify key f = table.modify key g := by
  ext1
  refine List.map_congr_left fun entry stored => ?_
  by_cases here : entry.1 = key
  · have stands : some entry.2 = some value := by
      rw [← get?_of_mem stored, here, found]
    simp only [here, ↓reduceIte, Option.some.inj stands, same]
  · simp only [here, ↓reduceIte]

/-- The value under a name stands at the place of the name. -/
theorem get?_eq_getElem?_values (table : Table α) (key : String) :
    table.get? key = table.values[table.keys.idxOf key]? := by
  obtain ⟨entries, nodup⟩ := table
  simp only [get?, values, keys]
  clear nodup
  induction entries with
  | nil => rfl
  | cons entry rest inductionHypothesis =>
      obtain ⟨name, value⟩ := entry
      by_cases same : key = name
      · simp [same]
      · have differ : (key == name) = false := by simpa using same
        simp [List.lookup_cons, differ, inductionHypothesis, List.idxOf_cons_ne _ (Ne.symm same)]

/-- A changed value stays at the place of its name. -/
theorem values_modify (table : Table α) (key : String) (f : α → α) :
    (table.modify key f).values = table.values.modify (table.keys.idxOf key) f := by
  obtain ⟨entries, nodup⟩ := table
  simp only [modify, mapValues, values, keys, List.map_map, Function.comp_def]
  induction entries with
  | nil => rfl
  | cons entry rest inductionHypothesis =>
      obtain ⟨fresh, nodupRest⟩ := List.nodup_cons.mp nodup
      by_cases same : entry.1 = key
      · have kept : ∀ other ∈ rest, (if other.1 = key then f other.2 else other.2) = other.2 := by
          intro other membership
          refine if_neg fun again => fresh ?_
          rw [same, ← again]
          exact List.mem_map_of_mem membership
        simp [same, List.map_congr_left kept]
      · simp [same, inductionHypothesis nodupRest, List.idxOf_cons_ne _ same]

theorem get?_append_self {value : α} (fresh : key ∉ table.keys) :
    (table.append key value fresh).get? key = some value := by
  have missing : table.entries.lookup key = none := get?_eq_none_iff.mpr fresh
  simp [get?, append, List.lookup_append, missing]

theorem get?_append_of_ne {value : α} (fresh : key ∉ table.keys) {other : String}
    (differs : other ≠ key) : (table.append key value fresh).get? other = table.get? other := by
  have apart : (other == key) = false := beq_eq_false_iff_ne.mpr differs
  cases found : table.entries.lookup other with
  | none => simp [get?, append, List.lookup_append, List.lookup_cons, found, apart]
  | some here => simp [get?, append, List.lookup_append, found]

/-- Storing a value changes what one name has. -/
theorem get?_insert (table : Table α) (key : String) (value : α) (other : String) :
    (table.insert key value).get? other = if other = key then some value else table.get? other := by
  unfold insert
  by_cases known : key ∈ table.keys
  · rw [dif_pos known]
    by_cases same : other = key
    · obtain ⟨old, found⟩ := exists_get? known
      simp [same, get?_modify_self, found]
    · rw [if_neg same, get?_modify_of_ne _ same]
  · rw [dif_neg known]
    by_cases same : other = key
    · rw [if_pos same, same, get?_append_self]
    · rw [if_neg same, get?_append_of_ne known same]

theorem ofList_concat (entries : List (String × α)) (entry : String × α) :
    ofList (entries ++ [entry]) = (ofList entries).insert entry.1 entry.2 := by
  simp [ofList]

/-- Of several values under one name the last one counts. -/
theorem get?_ofList (entries : List (String × α)) (key : String) :
    (ofList entries).get? key =
      ((entries.filter (·.1 = key)).getLast?).map Prod.snd := by
  induction entries using List.reverseRecOn with
  | nil => rfl
  | append_singleton entries entry inductionHypothesis =>
      rw [ofList_concat, get?_insert, inductionHypothesis, List.filter_append]
      by_cases same : entry.1 = key
      · simp [same]
      · simp [same, Ne.symm same]

theorem eraseDups_concat (names : List String) (name : String) :
    (names ++ [name]).eraseDups =
      if name ∈ names then names.eraseDups else names.eraseDups ++ [name] := by
  rw [List.eraseDups_append]
  by_cases known : name ∈ names <;> simp [List.removeAll, known, List.eraseDups_cons]

/-- A name has the place at which it stands first. -/
theorem keys_ofList (entries : List (String × α)) :
    (ofList entries).keys = (entries.map Prod.fst).eraseDups := by
  induction entries using List.reverseRecOn with
  | nil => rfl
  | append_singleton entries entry inductionHypothesis =>
      rw [ofList_concat, keys_insert, inductionHypothesis, List.map_append, List.map_singleton,
        eraseDups_concat]
      simp only [List.mem_eraseDups]

/-- Changing the entry that has just been appended is appending it changed. -/
theorem modify_append {value : α} (f : α → α) (fresh : key ∉ table.keys) :
    (table.append key value fresh).modify key f = table.append key (f value) fresh := by
  have kept : table.entries.map (fun entry =>
      (entry.1, if entry.1 = key then f entry.2 else entry.2)) = table.entries := by
    refine (List.map_congr_left fun entry membership => ?_).trans (List.map_id _)
    have differs : entry.1 ≠ key := by
      rintro rfl
      exact fresh (List.mem_map_of_mem membership)
    simp [differs]
  ext1
  simp [modify, mapValues, append, kept]

theorem forall_modify (property : String → α → Prop) {f : α → α}
    (holds : ∀ entry ∈ table.entries, property entry.1 entry.2)
    (kept : ∀ value, property key value → property key (f value)) :
    ∀ entry ∈ (table.modify key f).entries, property entry.1 entry.2 := by
  intro entry membership
  obtain ⟨⟨name, value⟩, membershipBefore, rfl⟩ := List.mem_map.mp membership
  have holdsBefore := holds _ membershipBefore
  by_cases same : name = key
  · subst same
    simpa using kept value holdsBefore
  · simpa [same] using holdsBefore

theorem forall_append (property : String → α → Prop) {value : α} (fresh : key ∉ table.keys)
    (holds : ∀ entry ∈ table.entries, property entry.1 entry.2) (appended : property key value) :
    ∀ entry ∈ (table.append key value fresh).entries, property entry.1 entry.2 := by
  intro entry membership
  rcases List.mem_append.mp membership with earlier | last
  · exact holds entry earlier
  · rw [List.mem_singleton.mp last]
    exact appended

theorem mem_keys_append {value : α} (fresh : key ∉ table.keys) {name : String}
    (known : name ∈ table.keys) : name ∈ (table.append key value fresh).keys := by
  rw [keys, append, List.map_append]
  exact List.mem_append_left _ known

/-- Change every name, without making two of them the same, and every value. -/
def rename (f : String → String) (injective : Function.Injective f) (g : α → β)
    (table : Table α) : Table β where
  entries := table.entries.map fun entry => (f entry.1, g entry.2)
  nodup := by
    rw [List.map_map]
    have distinct := table.nodup.map injective
    rwa [List.map_map] at distinct

theorem keys_rename (f : String → String) (injective : Function.Injective f) (g : α → β)
    (table : Table α) : (table.rename f injective g).keys = table.keys.map f := by
  simp [rename, keys, Function.comp_def]

end Chronogram.Table
