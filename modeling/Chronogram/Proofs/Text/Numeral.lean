import Chronogram.Text.Digit
import Chronogram.Text.Numeral
import Mathlib.Algebra.Group.Int.Defs

/-!
Reading back numbers that have been written.

Every number within the range of a reader is read as itself from the digits that are written for it.
-/

namespace Chronogram.Text.Numeral

theorem valueFrom_cons (seen : Nat) (c : Char) (rest : List Char) :
    valueFrom seen (c :: rest) = valueFrom (10 * seen + (c.toNat - '0'.toNat)) rest := by
  -- Generating the equation of the definition takes long, checking this one does not.
  with_unfolding_all rfl

theorem valueFrom_eq (seen : Nat) (text : List Char) :
    valueFrom seen text = Nat.ofDigitChars 10 text seen := by
  induction text generalizing seen with
  | nil => rfl
  | cons c rest inductionHypothesis =>
      rw [valueFrom_cons, inductionHypothesis, Nat.ofDigitChars_cons]

/-- A row of ASCII digits has a value; the empty row has the value zero. -/
def Denotes (text : List Char) (n : Nat) : Prop :=
  (∀ c ∈ text, c.isDigit = true) ∧ Nat.ofDigitChars 10 text 0 = n

instance (text : List Char) (n : Nat) : Decidable (Denotes text n) :=
  decidable_of_iff (text.all Char.isDigit = true ∧ Nat.ofDigitChars 10 text 0 = n)
    (and_congr_left' List.all_eq_true)

theorem isNumeral_iff {text : List Char} :
    isNumeral text = true ↔ text ≠ [] ∧ ∀ c ∈ text, c.isDigit = true := by
  simp [isNumeral, List.all_eq_true]

theorem natural?_eq_some_iff {text : List Char} {n : Nat} (nonempty : text ≠ []) :
    natural? text = some n ↔ Denotes text n := by
  simp [natural?, isNumeral_iff, nonempty, valueFrom_eq, Denotes]

/-- What does not start with a plus sign is read as it stands. -/
theorem unsigned?_of_unsigned {text : List Char} (bound : Nat)
    (unsigned : ∀ rest, text ≠ '+' :: rest) :
    unsigned? bound text = (natural? text).filter (· < bound) := by
  unfold unsigned?
  split
  next rest => exact absurd rfl (unsigned rest)
  next => rfl

theorem unsigned?_eq_some_iff {text : List Char} {bound n : Nat} (nonempty : text ≠ [])
    (unsigned : ∀ rest, text ≠ '+' :: rest) :
    unsigned? bound text = some n ↔ Denotes text n ∧ n < bound := by
  rw [unsigned?_of_unsigned bound unsigned, Option.filter_eq_some_iff,
    natural?_eq_some_iff nonempty, decide_eq_true_eq]

theorem ofNat_ne_nil (n : Nat) : ofNat n ≠ [] :=
  Nat.toDigits_ne_nil

theorem isDigit_of_mem_ofNat {n : Nat} {c : Char} (membership : c ∈ ofNat n) : c.isDigit = true :=
  Nat.isDigit_of_mem_toDigits (by decide) (by decide) membership

theorem isNumeral_ofNat (n : Nat) : isNumeral (ofNat n) = true := by
  have digits : (ofNat n).all Char.isDigit = true :=
    List.all_eq_true.mpr fun _ => isDigit_of_mem_ofNat
  simp [isNumeral, ofNat_ne_nil, digits]

@[simp]
theorem natural?_ofNat (n : Nat) : natural? (ofNat n) = some n := by
  rw [natural?, isNumeral_ofNat, valueFrom_eq, ofNat, Nat.ofDigitChars_ten_toDigits]
  rfl

theorem ofNat_ne_cons {c : Char} (sign : c.isDigit = false) (n : Nat) (rest : List Char) :
    ofNat n ≠ c :: rest := by
  intro same
  have digit := isDigit_of_mem_ofNat (n := n) (same ▸ List.mem_cons_self)
  rw [sign] at digit
  exact Bool.noConfusion digit

theorem unsigned?_ofNat {n bound : Nat} (within : n < bound) :
    unsigned? bound (ofNat n) = some n := by
  rw [unsigned?_of_unsigned bound (ofNat_ne_cons (by decide) n), natural?_ofNat]
  simp [within]

theorem signed?_ofInt {n : Int} (lower : -(2 ^ 63) ≤ n) (upper : n < 2 ^ 63) :
    signed? (ofInt n) = some n := by
  have half : wordBound / 2 = 2 ^ 63 := by decide
  cases n with
  | ofNat n =>
      have within : n < wordBound / 2 := by
        rw [half]
        exact Int.ofNat_lt.mp upper
      have unsigned : signed? (ofNat n) = (unsigned? (wordBound / 2) (ofNat n)).map Int.ofNat := by
        unfold signed?
        split
        next rest same => exact absurd same (ofNat_ne_cons (by decide) n rest)
        next => rfl
      rw [ofInt, unsigned, unsigned?_ofNat within]
      rfl
  | negSucc n =>
      have within : n + 1 ≤ wordBound / 2 := by
        rw [half]
        omega
      have kept : (some (n + 1)).filter (· ≤ wordBound / 2) = some (n + 1) := by
        simp [within]
      rw [ofInt, signed?, natural?_ofNat, kept]
      rfl

/-- Written digits are digits for the line grammar. -/
theorem isDigit_of_ascii {c : Char} (ascii : c.isDigit = true) : isDigit c = true := by
  simp only [Char.isDigit, Bool.and_eq_true, decide_eq_true_eq] at ascii
  obtain ⟨lower, upper⟩ := ascii
  have lowerBound : 48 ≤ c.toNat := lower
  have upperBound : c.toNat ≤ 57 := upper
  unfold isDigit digitRanges Ranges.contains
  simp only [Nat.not_lt_of_le lowerBound, upperBound, ↓reduceIte]

end Chronogram.Text.Numeral
