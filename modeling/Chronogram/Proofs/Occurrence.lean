import Mathlib.Data.List.Basic

/-!
Where the elements of a list stand.

Elements that are kept with their numbers stand in the order of these numbers, and the last element
of a kind is the one behind which there is no other.
-/

namespace Chronogram

variable {α β : Type} {values : List α}

theorem pairwise_filterMap_zipIdx {f : α × Nat → Option β} {number : β → Nat}
    (numbered : ∀ entry image, f entry = some image → number image = entry.2) (values : List α)
    (start : Nat) :
    ((values.zipIdx start).filterMap f).Pairwise fun image later =>
      number image < number later := by
  have rising : (values.zipIdx start).Pairwise fun entry later => entry.2 < later.2 := by
    rw [← List.pairwise_map (f := Prod.snd), List.zipIdx_map_snd]
    exact List.pairwise_lt_range' 1
  refine rising.filterMap f fun entry later before image made other madeLater => ?_
  rwa [numbered entry image made, numbered later other madeLater]

theorem getLast?_filterMap_eq_some_iff {f : α → Option β} {image : β} :
    (values.filterMap f).getLast? = some image ↔
      ∃ before value after, values = before ++ value :: after ∧ f value = some image ∧
        ∀ other ∈ after, f other = none := by
  rw [List.getLast?_filterMap, List.findSome?_eq_some_iff]
  constructor
  · rintro ⟨after, value, before, reversed, made, none⟩
    refine ⟨before.reverse, value, after.reverse, ?_, made, by simpa using none⟩
    rw [← List.reverse_reverse values, reversed]
    simp
  · rintro ⟨before, value, after, rfl, made, none⟩
    exact ⟨after.reverse, value, before.reverse, by simp, made, by simpa using none⟩

end Chronogram
