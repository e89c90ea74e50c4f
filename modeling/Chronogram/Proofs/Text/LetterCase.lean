import Chronogram.Proofs.Text.Trim
import Chronogram.Text.Ascii

/-!
Letter case.

Only ASCII letters have another case, and none of them is blank. So it makes no difference whether a
text is trimmed before it is mapped to lower case or after that.
-/

namespace Chronogram.Text

theorem forall_ascii {P : Char → Prop} (all : ∀ n < 128, P (Char.ofNat n)) {c : Char}
    (ascii : c.toNat < 128) : P c := by
  have here := all c.toNat ascii
  rwa [Char.ofNat_toNat] at here

theorem toLower_of_le {c : Char} (beyond : 128 ≤ c.toNat) : c.toLower = c := by
  refine dif_neg fun letter => ?_
  have last : c.toNat ≤ 90 := letter.2
  omega

theorem toLower_toLower (c : Char) : c.toLower.toLower = c.toLower := by
  rcases Nat.lt_or_ge c.toNat 128 with ascii | beyond
  · exact forall_ascii (P := fun c => c.toLower.toLower = c.toLower) (by decide) ascii
  · rw [toLower_of_le beyond, toLower_of_le beyond]

theorem toLower_of_mem_asciiLower {text : List Char} {c : Char} (inside : c ∈ asciiLower text) :
    c.toLower = c := by
  obtain ⟨letter, -, rfl⟩ := List.mem_map.mp inside
  exact toLower_toLower letter

theorem isBlank_toLower (c : Char) : isBlank c.toLower = isBlank c := by
  rcases Nat.lt_or_ge c.toNat 128 with ascii | beyond
  · exact forall_ascii (P := fun c => isBlank c.toLower = isBlank c) (by decide) ascii
  · rw [toLower_of_le beyond]

theorem dropWhile_isBlank_toLower (text : List Char) :
    (text.map Char.toLower).dropWhile isBlank = (text.dropWhile isBlank).map Char.toLower := by
  have same : isBlank ∘ Char.toLower = isBlank := funext isBlank_toLower
  rw [List.dropWhile_map, same]

theorem trim_asciiLower (text : List Char) : trim (asciiLower text) = asciiLower (trim text) := by
  simp only [trim, trimEnd, trimStart, asciiLower, dropWhile_isBlank_toLower, ← List.map_reverse]

end Chronogram.Text
