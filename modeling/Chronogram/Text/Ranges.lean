/-!
Sets of characters given by ranges of code points.

A range table lists closed ranges in increasing order, so a search can stop at the first range that
starts beyond the character.
-/

namespace Chronogram.Text

/-- Closed ranges of code points, in increasing order. -/
abbrev Ranges := List (Nat × Nat)

/-- Search a range table, giving up at the first range that starts beyond the code point. -/
def Ranges.contains : Ranges → Nat → Bool
  | [], _ => false
  | (first, last) :: rest, code =>
      if code < first then false
      else if code ≤ last then true
      else Ranges.contains rest code

/-- A code point that the search finds lies in one of the ranges. -/
theorem Ranges.exists_of_contains {ranges : Ranges} {code : Nat}
    (found : ranges.contains code = true) :
    ∃ range ∈ ranges, range.1 ≤ code ∧ code ≤ range.2 := by
  induction ranges with
  | nil => simp [Ranges.contains] at found
  | cons range rest inductionHypothesis =>
      obtain ⟨first, last⟩ := range
      simp only [Ranges.contains] at found
      split at found
      · simp at found
      · next reached =>
        split at found
        · next within => exact ⟨(first, last), by simp, by omega, within⟩
        · obtain ⟨range, membership, bounds⟩ := inductionHypothesis found
          exact ⟨range, List.mem_cons_of_mem _ membership, bounds⟩

end Chronogram.Text
