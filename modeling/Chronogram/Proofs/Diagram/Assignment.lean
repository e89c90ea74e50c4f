import Chronogram.Proofs.Diagram.Catalog
import Chronogram.Proofs.Occurrence
import Mathlib.Data.List.Perm.Basic

/-!
A catalog is the map that its assignments define.

Labels that are stored one after the other define a map from indices to labels, in which the last
label of an index counts. Everything a catalog answers is an answer about this map, and two lists of
assignments that define the same map lead to the same catalog.
-/

namespace Chronogram.Catalog

/-- Store labels one after the other. -/
def ofAssignments (assignments : List (Nat × String)) : Catalog :=
  assignments.foldl (fun catalog entry => catalog.insert entry.1 entry.2) empty

/-- A label that is assigned to an index and not replaced later. -/
def Assigns (assignments : List (Nat × String)) (index : Nat) (label : String) : Prop :=
  ∃ before after, assignments = before ++ (index, label) :: after ∧
    ∀ entry ∈ after, entry.1 ≠ index

/-- The label of an assignment to an index. -/
def labelAt? (index : Nat) (entry : Nat × String) : Option String :=
  if entry.1 = index then some entry.2 else none

variable {assignments others : List (Nat × String)} {index : Nat} {label : String}

theorem labelAt?_eq_some_iff {entry : Nat × String} :
    labelAt? index entry = some label ↔ entry = (index, label) := by
  obtain ⟨other, given⟩ := entry
  simp [labelAt?]

theorem labelAt?_eq_none_iff {entry : Nat × String} :
    labelAt? index entry = none ↔ entry.1 ≠ index := by
  simp [labelAt?]

theorem assigns_iff :
    Assigns assignments index label ↔
      (assignments.filterMap (labelAt? index)).getLast? = some label := by
  rw [getLast?_filterMap_eq_some_iff]
  simp only [labelAt?_eq_some_iff, labelAt?_eq_none_iff]
  constructor
  · rintro ⟨before, after, split, last⟩
    exact ⟨before, _, after, split, rfl, last⟩
  · rintro ⟨before, _, after, split, rfl, last⟩
    exact ⟨before, after, split, last⟩

theorem ofAssignments_concat (assignments : List (Nat × String)) (entry : Nat × String) :
    ofAssignments (assignments ++ [entry]) = (ofAssignments assignments).insert entry.1 entry.2 := by
  simp [ofAssignments]

/-! ### The map -/

theorem get?_ofAssignments (assignments : List (Nat × String)) (index : Nat) :
    (ofAssignments assignments).get? index =
      (assignments.filterMap (labelAt? index)).getLast? := by
  induction assignments using List.reverseRecOn with
  | nil => rfl
  | append_singleton assignments entry inductionHypothesis =>
      rw [ofAssignments_concat, get?_insert, inductionHypothesis, List.filterMap_append]
      by_cases same : entry.1 = index
      · simp [labelAt?, same]
      · simp [labelAt?, same, Ne.symm same]

theorem get?_ofAssignments_eq_some_iff :
    (ofAssignments assignments).get? index = some label ↔ Assigns assignments index label := by
  rw [get?_ofAssignments, assigns_iff]

theorem get?_ofAssignments_eq_none_iff :
    (ofAssignments assignments).get? index = none ↔ ∀ entry ∈ assignments, entry.1 ≠ index := by
  simp only [get?_ofAssignments, List.getLast?_eq_none_iff, List.filterMap_eq_nil_iff,
    labelAt?_eq_none_iff]

/-! ### The number of slots -/

/-- The slots reach up to the greatest index to which a label was assigned. -/
theorem size_ofAssignments (nonempty : assignments ≠ []) :
    ∃ greatest, IsGreatest {index | ∃ label, (index, label) ∈ assignments} greatest ∧
      (ofAssignments assignments).size = greatest + 1 := by
  induction assignments using List.reverseRecOn with
  | nil => exact absurd rfl nonempty
  | append_singleton assignments entry inductionHypothesis =>
      obtain ⟨index, label⟩ := entry
      rw [ofAssignments_concat, size_insert]
      by_cases first : assignments = []
      · subst first
        refine ⟨index, ⟨⟨label, by simp⟩, ?_⟩, Nat.max_eq_right (Nat.zero_le _)⟩
        rintro other ⟨given, membership⟩
        simp only [List.nil_append, List.mem_singleton, Prod.mk.injEq] at membership
        exact Nat.le_of_eq membership.1
      · obtain ⟨greatest, ⟨⟨given, stands⟩, bounds⟩, size⟩ := inductionHypothesis first
        refine ⟨max greatest index, ⟨?_, ?_⟩, by rw [size]; omega⟩
        · rcases Nat.le_total index greatest with below | above
          · rw [Nat.max_eq_left below]
            exact ⟨given, List.mem_append_left _ stands⟩
          · rw [Nat.max_eq_right above]
            exact ⟨label, List.mem_append_right _ (List.mem_singleton_self _)⟩
        · rintro other ⟨otherGiven, membership⟩
          rcases List.mem_append.mp membership with earlier | last
          · exact (bounds ⟨otherGiven, earlier⟩).trans (Nat.le_max_left _ _)
          · obtain ⟨rfl, -⟩ := Prod.mk.inj (List.mem_singleton.mp last)
            exact Nat.le_max_right _ _

theorem isEmpty_iff_size {catalog : Catalog} : catalog.isEmpty = true ↔ catalog.size = 0 := by
  rw [isEmpty, size, List.isEmpty_iff, List.length_eq_zero_iff]

theorem isEmpty_ofAssignments : (ofAssignments assignments).isEmpty = true ↔ assignments = [] := by
  rw [isEmpty_iff_size]
  constructor
  · intro none
    by_contra nonempty
    obtain ⟨greatest, -, size⟩ := size_ofAssignments nonempty
    omega
  · rintro rfl
    rfl

theorem compact_ofAssignments (assignments : List (Nat × String)) :
    (ofAssignments assignments).Compact := by
  induction assignments using List.reverseRecOn with
  | nil => decide
  | append_singleton assignments entry inductionHypothesis =>
      rw [ofAssignments_concat]
      exact compact_insert inductionHypothesis entry.1 entry.2

/-! ### The labels in order -/

theorem mem_labels_iff {catalog : Catalog} :
    (index, label) ∈ catalog.labels ↔ catalog.get? index = some label := by
  simp [labels, get?, Option.join_eq_some_iff, List.mk_mem_zipIdx_iff_getElem?]

theorem pairwise_labels (catalog : Catalog) :
    catalog.labels.Pairwise fun entry later => entry.1 < later.1 := by
  refine pairwise_filterMap_zipIdx (fun entry labelled made => ?_) catalog.slots 0
  obtain ⟨label, -, rfl⟩ := Option.map_eq_some_iff.mp made
  rfl

theorem labels_congr {first second : Catalog}
    (same : ∀ index, first.get? index = second.get? index) : first.labels = second.labels := by
  have nodup : ∀ catalog : Catalog, catalog.labels.Nodup := by
    intro catalog
    refine (pairwise_labels catalog).imp ?_
    rintro entry _ below rfl
    exact Nat.lt_irrefl _ below
  have permuted : first.labels.Perm second.labels := by
    refine (List.perm_ext_iff_of_nodup (nodup first) (nodup second)).mpr fun entry => ?_
    rw [mem_labels_iff, mem_labels_iff, same]
  refine permuted.eq_of_pairwise ?_ (pairwise_labels first) (pairwise_labels second)
  intro entry other _ _ below above
  exact absurd below (Nat.lt_asymm above)

/-- Catalogs without holes at their ends are equal if they answer alike. -/
theorem eq_of_get?_eq {first second : Catalog} (compact : first.Compact)
    (compact' : second.Compact) (same : ∀ index, first.get? index = second.get? index) :
    first = second := by
  rw [← foldl_insert_labels_of_compact compact, labels_congr same,
    foldl_insert_labels_of_compact compact']

/-- A catalog refines the map that its assignments define. A look-up gives the label that was
assigned last, and nothing at an index without an assignment; the slots reach up to the greatest
index that was assigned, and the last one is filled; without assignments there are none; the labels
are listed with strictly increasing indices; a label is found at the least index that has it; and
assignments that define the same map lead to the same catalog. -/
theorem assignments_define_catalog (assignments : List (Nat × String)) :
    (∀ index label,
      (ofAssignments assignments).get? index = some label ↔ Assigns assignments index label) ∧
    (∀ index,
      (ofAssignments assignments).get? index = none ↔ ∀ entry ∈ assignments, entry.1 ≠ index) ∧
    (assignments = [] → (ofAssignments assignments).size = 0) ∧
    (assignments ≠ [] → ∃ greatest,
      IsGreatest {index | ∃ label, (index, label) ∈ assignments} greatest ∧
        (ofAssignments assignments).size = greatest + 1) ∧
    ((ofAssignments assignments).isEmpty = true ↔ assignments = []) ∧
    (ofAssignments assignments).slots.getLast? ≠ some none ∧
    (∀ index label, (index, label) ∈ (ofAssignments assignments).labels ↔
      (ofAssignments assignments).get? index = some label) ∧
    ((ofAssignments assignments).labels.Pairwise fun entry later => entry.1 < later.1) ∧
    (∀ label index, (ofAssignments assignments).position? label = some index ↔
      IsLeast {slot | (ofAssignments assignments).get? slot = some label} index) ∧
    (∀ label, (ofAssignments assignments).position? label = none ↔
      ∀ index, (ofAssignments assignments).get? index ≠ some label) ∧
    (∀ others, (∀ index label, Assigns others index label ↔ Assigns assignments index label) →
      ofAssignments others = ofAssignments assignments) := by
  refine ⟨fun index label => get?_ofAssignments_eq_some_iff,
    fun index => get?_ofAssignments_eq_none_iff, ?_, size_ofAssignments, isEmpty_ofAssignments,
    compact_ofAssignments assignments, fun index label => mem_labels_iff,
    pairwise_labels (ofAssignments assignments), fun label index => position?_eq_some_iff,
    fun label => position?_eq_none_iff, ?_⟩
  · rintro rfl
    rfl
  · intro others same
    refine eq_of_get?_eq (compact_ofAssignments others) (compact_ofAssignments assignments) ?_
    intro index
    ext label
    rw [get?_ofAssignments_eq_some_iff, get?_ofAssignments_eq_some_iff, same]

/-- Assignments in another order, one of which was replaced. -/
theorem replaced_assignment_leaves_no_trace :
    let direct : List (Nat × String) := [(0, "Idle"), (3, "Busy"), (1, "Busy")]
    let detour : List (Nat × String) := [(3, "Done"), (1, "Busy"), (3, "Busy"), (0, "Idle")]
    (∀ index label, Assigns detour index label ↔ Assigns direct index label) ∧
    ofAssignments detour = ofAssignments direct ∧
    ofAssignments direct = ⟨[some "Idle", some "Busy", none, some "Busy"]⟩ ∧
    direct ≠ [] ∧
    ∃ greatest, IsGreatest {index | ∃ label, (index, label) ∈ direct} greatest ∧
      (ofAssignments direct).size = greatest + 1 := by
  intro direct detour
  have same : ∀ index label, Assigns detour index label ↔ Assigns direct index label := by
    intro index label
    rw [assigns_iff, assigns_iff]
    by_cases zero : 0 = index <;> by_cases one : 1 = index <;> by_cases three : 3 = index <;>
      simp [direct, detour, labelAt?, zero, one, three] <;> omega
  have nonempty : direct ≠ [] := List.cons_ne_nil _ _
  obtain ⟨-, -, -, reach, -, -, -, -, -, -, determined⟩ := assignments_define_catalog direct
  exact ⟨same, determined detour same, by decide, nonempty, reach nonempty⟩

end Chronogram.Catalog
