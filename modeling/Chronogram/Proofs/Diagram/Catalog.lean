import Chronogram.Diagram.Catalog
import Mathlib.Data.List.DropRight
import Mathlib.Data.List.ReduceOption
import Mathlib.Data.Set.Operations
import Mathlib.Order.Bounds.Defs

/-!
Storing labels in a catalog.

Storing a label changes one slot and never leaves a hole at the end. Storing the labels of a catalog
one after the other gives the catalog again, except that holes at its end are lost. A catalog that
was built by storing labels has no such holes.
-/

namespace Chronogram.Catalog

/-- The last slot, if there is one, has a label. -/
def Compact (catalog : Catalog) : Prop :=
  catalog.slots.getLast? ≠ some none

instance (catalog : Catalog) : Decidable catalog.Compact :=
  inferInstanceAs (Decidable (_ ≠ _))

/-- Storing a label changes one slot; slots that it opens are holes. -/
theorem get?_insert (catalog : Catalog) (index : Nat) (label : String) (other : Nat) :
    (catalog.insert index label).get? other =
      if other = index then some label else catalog.get? other := by
  unfold insert get?
  by_cases within : index < catalog.slots.length
  · by_cases same : other = index
    · simp [within, same]
    · simp [within, same, List.getElem?_set_ne (Ne.symm same)]
  · have beyond : catalog.slots.length ≤ index := Nat.le_of_not_lt within
    have opened : (catalog.slots ++ List.replicate (index - catalog.slots.length) none).length =
        index := by
      rw [List.length_append, List.length_replicate]
      omega
    simp only [within, ↓reduceIte]
    rcases Nat.lt_trichotomy other index with below | same | above
    · rw [if_neg (Nat.ne_of_lt below), List.getElem?_append_left (opened.symm ▸ below)]
      by_cases inside : other < catalog.slots.length
      · rw [List.getElem?_append_left inside]
      · have hole : other - catalog.slots.length < index - catalog.slots.length := by omega
        rw [List.getElem?_append_right (Nat.le_of_not_lt inside), List.getElem?_replicate,
          if_pos hole, List.getElem?_eq_none (Nat.le_of_not_lt inside)]
        rfl
    · rw [if_pos same, List.getElem?_append_right (by omega), opened, same, Nat.sub_self]
      rfl
    · rw [if_neg (Nat.ne_of_gt above), List.getElem?_eq_none (by rw [List.length_append]; simp; omega),
        List.getElem?_eq_none (by omega)]

theorem get?_eq_some_iff {catalog : Catalog} {index : Nat} {label : String} :
    catalog.get? index = some label ↔
      ∃ within : index < catalog.slots.length, catalog.slots[index] = some label := by
  rw [get?, Option.join_eq_some_iff, List.getElem?_eq_some_iff]

/-- Looking a label up gives the least index that carries it. -/
theorem position?_eq_some_iff {catalog : Catalog} {label : String} {index : Nat} :
    catalog.position? label = some index ↔
      IsLeast {slot | catalog.get? slot = some label} index := by
  unfold position?
  simp only [List.findIdx?_eq_some_iff_getElem, decide_eq_true_eq, IsLeast, lowerBounds,
    Set.mem_ofPred_eq, get?_eq_some_iff]
  constructor
  · rintro ⟨within, stored, before⟩
    refine ⟨⟨within, stored⟩, fun {other} ⟨_, found⟩ => ?_⟩
    exact Nat.le_of_not_lt fun below => before other below found
  · rintro ⟨⟨within, stored⟩, least⟩
    refine ⟨within, stored, fun other below found => ?_⟩
    exact Nat.not_le_of_lt below (least ⟨below.trans within, found⟩)

theorem position?_eq_none_iff {catalog : Catalog} {label : String} :
    catalog.position? label = none ↔ ∀ index, catalog.get? index ≠ some label := by
  unfold position?
  simp only [List.findIdx?_eq_none_iff, decide_eq_false_iff_not, ne_eq, get?_eq_some_iff,
    not_exists]
  constructor
  · intro nowhere index within stored
    exact nowhere _ (List.getElem_mem within) stored
  · intro nowhere slot membership stored
    obtain ⟨index, within, rfl⟩ := List.getElem_of_mem membership
    exact nowhere index within stored

theorem size_insert (catalog : Catalog) (index : Nat) (label : String) :
    (catalog.insert index label).size = max catalog.size (index + 1) := by
  unfold insert
  by_cases within : index < catalog.slots.length
  · have inside : index + 1 ≤ catalog.slots.length := within
    simp [within, size, inside]
  · have beyond : catalog.slots.length ≤ index := Nat.le_of_not_lt within
    simp only [within, ↓reduceIte, size, List.length_append, List.length_replicate,
      List.length_singleton]
    omega

theorem mem_slots_insert {catalog : Catalog} {index : Nat} {label other : String}
    (stored : some other ∈ (catalog.insert index label).slots) :
    other = label ∨ some other ∈ catalog.slots := by
  unfold insert at stored
  by_cases within : index < catalog.slots.length
  · simp only [within, ↓reduceIte] at stored
    rcases List.mem_or_eq_of_mem_set stored with earlier | same
    · exact .inr earlier
    · exact .inl (Option.some.inj same)
  · simpa [within, List.mem_replicate, or_comm] using stored

theorem mem_slots_of_mem_labels {catalog : Catalog} {entry : Nat × String}
    (labelled : entry ∈ catalog.labels) : some entry.2 ∈ catalog.slots := by
  obtain ⟨⟨slot, index⟩, stored, given⟩ := List.mem_filterMap.mp labelled
  obtain ⟨label, rfl, rfl⟩ := Option.map_eq_some_iff.mp given
  exact List.fst_mem_of_mem_zipIdx stored

/-- The last slot is the one that was filled now, or it was the last one before. -/
theorem compact_insert {catalog : Catalog} (compact : catalog.Compact) (index : Nat)
    (label : String) : (catalog.insert index label).Compact := by
  unfold Compact insert at *
  by_cases within : index < catalog.slots.length
  · simp only [within, ↓reduceIte, List.getLast?_eq_getElem?, List.length_set]
    rw [List.getLast?_eq_getElem?] at compact
    by_cases last : index = catalog.slots.length - 1
    · simp [← last, within]
    · rwa [List.getElem?_set_ne last]
  · simp [within]

def map (f : String → String) (catalog : Catalog) : Catalog :=
  ⟨catalog.slots.map (Option.map f)⟩

theorem compact_map {f : String → String} {catalog : Catalog} (compact : catalog.Compact) :
    (catalog.map f).Compact := by
  intro last
  rw [map, List.getLast?_map] at last
  obtain ⟨slot, found, hole⟩ := Option.map_eq_some_iff.mp last
  cases slot with
  | none => exact compact found
  | some label => simp at hole

theorem labels_map (f : String → String) (catalog : Catalog) :
    (catalog.map f).labels = catalog.labels.map fun entry => (entry.1, f entry.2) := by
  simp only [labels, map, List.zipIdx_map, List.filterMap_map, List.map_filterMap]
  congr 1
  funext entry
  obtain ⟨slot, index⟩ := entry
  cases slot <;> rfl

theorem labels_concat (slots : List (Option String)) (slot : Option String) :
    labels ⟨slots ++ [slot]⟩ =
      labels ⟨slots⟩ ++ (slot.map fun label => (slots.length, label)).toList := by
  simp only [labels, List.zipIdx_append, List.filterMap_append, List.zipIdx_singleton]
  cases slot <;> simp

theorem map_snd_labels (catalog : Catalog) :
    catalog.labels.map Prod.snd = catalog.slots.reduceOption := by
  obtain ⟨slots⟩ := catalog
  induction slots using List.reverseRecOn with
  | nil => rfl
  | append_singleton slots slot inductionHypothesis =>
      change _ = (slots ++ [slot]).reduceOption
      rw [labels_concat, List.map_append, inductionHypothesis, List.reduceOption_append,
        List.reduceOption_singleton]
      cases slot <;> rfl

theorem length_labels (catalog : Catalog) :
    catalog.labels.length = (catalog.slots.map Option.isSome).count true := by
  obtain ⟨slots⟩ := catalog
  induction slots using List.reverseRecOn with
  | nil => rfl
  | append_singleton slots slot inductionHypothesis =>
      rw [labels_concat, List.length_append, inductionHypothesis, List.map_append,
        List.count_append]
      cases slot <;> rfl

def trimmed (slots : List (Option String)) : List (Option String) :=
  slots.rdropWhile Option.isNone

theorem trimmed_append_replicate (slots : List (Option String)) :
    trimmed slots ++ List.replicate (slots.length - (trimmed slots).length) none = slots := by
  induction slots using List.reverseRecOn with
  | nil => rfl
  | append_singleton slots slot inductionHypothesis =>
      cases slot with
      | none =>
          have shorter : (trimmed slots).length ≤ slots.length :=
            (List.rdropWhile_prefix _ _).length_le
          have further : (slots ++ [none]).length - (trimmed slots).length =
              slots.length - (trimmed slots).length + 1 := by
            rw [List.length_append, List.length_singleton]
            omega
          have same : trimmed (slots ++ [none]) = trimmed slots :=
            List.rdropWhile_concat_pos _ _ _ rfl
          rw [same, further, List.replicate_succ', ← List.append_assoc, inductionHypothesis]
      | some label =>
          have same : trimmed (slots ++ [some label]) = slots ++ [some label] :=
            List.rdropWhile_concat_neg _ _ _ (by simp)
          rw [same, Nat.sub_self, List.replicate_zero, List.append_nil]

/-- Storing the labels of some slots in order fills all slots up to the last label. -/
theorem foldl_insert_labels (slots : List (Option String)) :
    (labels ⟨slots⟩).foldl (fun catalog entry => catalog.insert entry.1 entry.2) empty =
      ⟨trimmed slots⟩ := by
  induction slots using List.reverseRecOn with
  | nil => rfl
  | append_singleton slots slot inductionHypothesis =>
      rw [labels_concat, List.foldl_append, inductionHypothesis]
      cases slot with
      | none => exact congrArg Catalog.mk (List.rdropWhile_concat_pos _ _ _ rfl).symm
      | some label =>
          have within : ¬slots.length < (trimmed slots).length :=
            Nat.not_lt_of_le (List.rdropWhile_prefix _ _).length_le
          have same : trimmed (slots ++ [some label]) = slots ++ [some label] :=
            List.rdropWhile_concat_neg _ _ _ (by simp)
          simp only [Option.map_some, Option.toList_some, List.foldl_cons, List.foldl_nil, insert,
            within, ↓reduceIte, trimmed_append_replicate, same]

/-- Storing the labels of a catalog without holes at its end gives the catalog. -/
theorem foldl_insert_labels_of_compact {catalog : Catalog} (compact : catalog.Compact) :
    catalog.labels.foldl (fun built entry => built.insert entry.1 entry.2) empty = catalog := by
  have kept : trimmed catalog.slots = catalog.slots := by
    refine List.rdropWhile_eq_self_iff.mpr fun nonempty hole => ?_
    refine compact ?_
    rw [List.getLast?_eq_getLast_of_ne_nil nonempty]
    exact congrArg some (Option.isNone_iff_eq_none.mp hole)
  have rebuilt := foldl_insert_labels catalog.slots
  rwa [kept] at rebuilt

end Chronogram.Catalog
