import Mathlib.Data.List.Basic

/-!
Lists that agree group by group.

Elements fall into groups. Two lists agree within groups if the elements of each group stand in the
same order in both, whatever stands between them: one list is the other one with elements moved past
elements of other groups.
-/

namespace Chronogram

variable {α β κ : Type} [DecidableEq κ]

def AgreeWithin (group : α → κ) (first second : List α) : Prop :=
  ∀ key, first.filter (group · = key) = second.filter (group · = key)

namespace AgreeWithin

variable {group : α → κ} {first second : List α}

theorem eq_nil (agree : AgreeWithin group first []) : first = [] := by
  cases first with
  | nil => rfl
  | cons value rest =>
      have none := agree (group value)
      simp at none

/-- What stands first in one list stands in the other one behind elements of other groups. -/
theorem exists_split {value : α} {rest : List α} (agree : AgreeWithin group first (value :: rest)) :
    ∃ before after, first = before ++ value :: after ∧
      (∀ other ∈ before, group other ≠ group value) ∧
      AgreeWithin group (before ++ after) rest := by
  have here := agree (group value)
  rw [List.filter_cons_of_pos (by simp)] at here
  obtain ⟨before, after, rfl, others, -, kept⟩ := List.filter_eq_cons_iff.mp here
  have differ : ∀ other ∈ before, group other ≠ group value := by simpa using others
  refine ⟨before, after, rfl, differ, fun key => ?_⟩
  have there := agree key
  by_cases same : group value = key
  · subst same
    have passed : before.filter (group · = group value) = [] := by simpa using differ
    rw [List.filter_append, passed, List.nil_append, kept]
  · simpa [same] using there

/-- Only groups that have elements need to be compared. -/
theorem iff_forall_mem : AgreeWithin group first second ↔
    ∀ value ∈ first ++ second,
      first.filter (group · = group value) = second.filter (group · = group value) := by
  constructor
  · intro agree value _
    exact agree (group value)
  · intro agree key
    by_cases inhabited : ∃ value ∈ first ++ second, group value = key
    · obtain ⟨value, stands, rfl⟩ := inhabited
      exact agree value stands
    · have absent : ∀ value ∈ first ++ second, ¬decide (group value = key) = true := by
        intro value stands here
        exact inhabited ⟨value, stands, of_decide_eq_true here⟩
      obtain ⟨absentFirst, absentSecond⟩ := List.forall_mem_append.mp absent
      rw [List.filter_eq_nil_iff.mpr absentFirst, List.filter_eq_nil_iff.mpr absentSecond]

instance [DecidableEq α] (group : α → κ) (first second : List α) :
    Decidable (AgreeWithin group first second) :=
  decidable_of_iff _ iff_forall_mem.symm

theorem filterMap {groupOf : β → κ} {f : α → Option β} (agree : AgreeWithin group first second)
    (kept : ∀ value image, f value = some image → group value = groupOf image) :
    AgreeWithin groupOf (first.filterMap f) (second.filterMap f) := by
  intro key
  have sifted : ∀ values : List α, (values.filterMap f).filter (groupOf · = key) =
      (values.filter (group · = key)).filterMap f := by
    intro values
    rw [List.filter_filterMap, List.filterMap_filter]
    refine List.filterMap_congr fun value _ => ?_
    cases found : f value with
    | none => simp
    | some image => simp [kept value image found, Option.filter]
  rw [sifted, sifted, agree key]

/-- Lists that agree within groups agree on what is seen of a single group. -/
theorem filterMap_eq {f : α → Option β} (agree : AgreeWithin group first second) (key : κ)
    (inside : ∀ value image, f value = some image → group value = key) :
    first.filterMap f = second.filterMap f := by
  have images : AgreeWithin (fun _ => key) (first.filterMap f) (second.filterMap f) :=
    agree.filterMap inside
  simpa using images key

end AgreeWithin

end Chronogram
