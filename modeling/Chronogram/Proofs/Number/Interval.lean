import Chronogram.Proofs.Number.Reading
import Chronogram.Proofs.Exact

/-!
The numbers that are rounded to a double.

They form an interval around the double. It reaches to the middles between the double and its
neighbours, and the middles themselves are rounded to the double if its mantissa is even. Below a
full mantissa the doubles lie twice as close as above it, so the interval is no longer symmetric.
-/

namespace Chronogram.Number

/-- How many quarters of the last place below a positive double are rounded to it. Below a full
mantissa the doubles lie twice as close. -/
def quartersBelow (m : Nat) (e : Int) : Nat :=
  if m = Format.double.fullMantissa ∧ Format.double.leastExponent < e then 1 else 2

/-- The numbers that are rounded to the positive double `m * 2 ^ e`. The ends of their interval are
among them if the mantissa is even. -/
structure Covers (m : Nat) (e : Int) (q : ℝ) : Prop where
  lower : (m : ℝ) - quartersBelow m e / 4 ≤ q / 2 ^ e
  upper : q / 2 ^ e ≤ (m : ℝ) + 1 / 2
  inside : m % 2 = 1 → (m : ℝ) - quartersBelow m e / 4 ≠ q / 2 ^ e ∧ q / 2 ^ e ≠ (m : ℝ) + 1 / 2

section Covers

variable {m : Nat} {e : Int} {q : ℝ}

theorem quartersBelow_pos (m : Nat) (e : Int) : 0 < quartersBelow m e := by
  unfold quartersBelow
  split <;> decide

theorem quartersBelow_le (m : Nat) (e : Int) : quartersBelow m e ≤ 2 := by
  unfold quartersBelow
  split <;> decide

theorem covers_self (m : Nat) (e : Int) : Covers m e (m * 2 ^ e) := by
  have some : (0 : ℝ) < quartersBelow m e := Nat.cast_pos.mpr (quartersBelow_pos m e)
  have units : (m : ℝ) * 2 ^ e / 2 ^ e = m := mul_div_cancel_right₀ _ (zpow_pos two_pos e).ne'
  refine ⟨?_, ?_, fun _ => ⟨?_, ?_⟩⟩ <;> rw [units]
  · linarith
  · linarith
  · exact (sub_lt_self _ (by linarith)).ne
  · exact (lt_add_of_pos_right _ (by norm_num)).ne

/-- What lies between two such numbers is one. -/
theorem Covers.between {a b : ℝ} (first : Covers m e a) (second : Covers m e b) (above : a ≤ q)
    (below : q ≤ b) : Covers m e q := by
  have place : (0 : ℝ) < 2 ^ e := zpow_pos two_pos e
  have aboveUnits : a / 2 ^ e ≤ q / 2 ^ e := div_le_div_of_nonneg_right above place.le
  have belowUnits : q / 2 ^ e ≤ b / 2 ^ e := div_le_div_of_nonneg_right below place.le
  refine ⟨first.lower.trans aboveUnits, belowUnits.trans second.upper, fun odd => ⟨?_, ?_⟩⟩
  · exact ((first.lower.lt_of_ne (first.inside odd).1).trans_le aboveUnits).ne
  · exact (belowUnits.trans_lt (second.upper.lt_of_ne (second.inside odd).2)).ne

theorem covers_of_lt (lower : (m : ℝ) - quartersBelow m e / 4 < q / 2 ^ e)
    (upper : q / 2 ^ e < (m : ℝ) + 1 / 2) : Covers m e q :=
  ⟨lower.le, upper.le, fun _ => ⟨lower.ne, upper.ne⟩⟩

/-- Apart from the numbers below a full mantissa, the double is the nearest number of places. -/
theorem Covers.roundsToWhole (covers : Covers m e q) : RoundsToWhole (q / 2 ^ e) m := by
  have few : (quartersBelow m e : ℝ) ≤ 2 := by exact_mod_cast quartersBelow_le m e
  have lower := covers.lower
  have upper := covers.upper
  refine ⟨abs_le.mpr ⟨by linarith, by linarith⟩, fun half => ?_⟩
  by_contra odd
  have odd : m % 2 = 1 := by omega
  have many : quartersBelow m e = 2 := by
    refine if_neg fun ⟨full, _⟩ => ?_
    rw [full] at odd
    exact absurd odd (by decide)
  obtain ⟨notLower, notUpper⟩ := covers.inside odd
  rw [many, Nat.cast_ofNat] at notLower
  rcases eq_or_eq_neg_of_abs_eq half with up | down
  · exact notUpper (by linarith)
  · exact notLower (by linarith)

theorem place_double (least : -1074 ≤ e) (fits : q / 2 ^ e < 2 ^ 53)
    (full : e = -1074 ∨ (2 : ℝ) ^ 52 ≤ q / 2 ^ e) : Format.double.Place q e := by
  have place : (0 : ℝ) < 2 ^ e := zpow_pos two_pos e
  refine ⟨least, ?_, full.imp_right fun full => ?_⟩
  · rw [zpow_add₀ two_ne_zero]
    exact (div_lt_iff₀ place).mp fits
  · rw [zpow_add₀ two_ne_zero]
    exact (le_div_iff₀ place).mp full

theorem Covers.rounds_above (covers : Covers m e q) (regular : Format.double.Regular m e)
    (reached : e = -1074 ∨ (2 : ℝ) ^ 52 ≤ q / 2 ^ e) :
    Format.double.Rounds q (.finite false m e) := by
  obtain ⟨fits, least, -, -⟩ := Format.regular_double_iff.mp regular
  have fitsReal : (m : ℝ) + 1 ≤ 2 ^ 53 := by exact_mod_cast fits
  have upper := covers.upper
  have chosen := place_double least (by linarith) reached
  have settled := Format.rounds_settle (by decide) (by decide) chosen covers.roundsToWhole
  rw [Format.settle_kept regular.fits, if_neg regular.greatest.not_gt] at settled
  exact settled

/-- Numbers below a full mantissa are counted in places half as great. Their count grows by a bit
when it is rounded. -/
theorem Covers.rounds_below (covers : Covers m e q) (regular : Format.double.Regular m e)
    (above : -1074 < e) (under : q / 2 ^ e < 2 ^ 52) :
    Format.double.Rounds q (.finite false m e) := by
  obtain ⟨-, -, -, full⟩ := Format.regular_double_iff.mp regular
  have few : (quartersBelow m e : ℝ) ≤ 2 := by exact_mod_cast quartersBelow_le m e
  have lower := covers.lower
  obtain rfl : m = 2 ^ 52 := by
    have notMoreReal : (m : ℝ) < (2 ^ 52 + 1 : Nat) := by
      push_cast
      linarith
    have notMore := Nat.cast_lt.mp notMoreReal
    omega
  have narrow : quartersBelow (2 ^ 52) e = 1 := if_pos ⟨by decide, above⟩
  rw [narrow] at lower
  push_cast at lower
  have halves : q / 2 ^ (e - 1) = q / 2 ^ e * 2 := by
    rw [zpow_sub_one₀ two_ne_zero, div_mul_eq_div_div, div_inv_eq_mul]
  have chosen : Format.double.Place q (e - 1) :=
    place_double (by omega) (by linarith) (.inr (by linarith))
  have rounds : RoundsToWhole (q / 2 ^ (e - 1)) (2 ^ 53) := by
    refine ⟨abs_le.mpr ?_, fun _ => by decide⟩
    push_cast
    constructor <;> linarith
  have settled := Format.rounds_settle (by decide) (by decide) chosen rounds
  have grown := Format.settle_grown Format.double (e - 1)
  rw [sub_add_cancel, if_neg regular.greatest.not_gt] at grown
  exact grown ▸ settled

theorem Covers.rounds (covers : Covers m e q) (regular : Format.double.Regular m e) :
    Format.double.Rounds q (.finite false m e) := by
  obtain ⟨-, least, -, -⟩ := Format.regular_double_iff.mp regular
  rcases eq_or_lt_of_le least with least | above
  · exact covers.rounds_above regular (.inl least.symm)
  · rcases le_or_gt ((2 : ℝ) ^ 52) (q / 2 ^ e) with reached | under
    · exact covers.rounds_above regular (.inr reached)
    · exact covers.rounds_below regular above under

theorem Format.Preferred.lt_of_odd {k : Nat} {f : Int} (preferred : Format.Preferred q m e k f)
    (odd : m % 2 = 1) (other : (k : ℝ) * 2 ^ f ≠ m * 2 ^ e) :
    |q - m * 2 ^ e| < |q - k * 2 ^ f| := by
  cases preferred with
  | same equal => exact absurd equal other
  | nearer farther => exact farther
  | even _ even _ => omega

/-- The nearer of two numbers lies on the same side of their middle. -/
theorem abs_sub_le_iff_le_middle {a b : ℝ} (order : a < b) (x : ℝ) :
    |x - a| ≤ |x - b| ↔ x ≤ (a + b) / 2 := by
  have difference : (x - b) ^ 2 - (x - a) ^ 2 = (b - a) * (a + b - 2 * x) := by ring
  rw [← sq_le_sq, ← sub_nonneg, difference, mul_nonneg_iff_of_pos_left (sub_pos.mpr order)]
  constructor <;> intro _ <;> linarith

theorem abs_sub_le_iff_middle_le {a b : ℝ} (order : a < b) (x : ℝ) :
    |x - b| ≤ |x - a| ↔ (a + b) / 2 ≤ x := by
  have difference : (x - a) ^ 2 - (x - b) ^ 2 = (b - a) * (2 * x - (a + b)) := by ring
  rw [← sq_le_sq, ← sub_nonneg, difference, mul_nonneg_iff_of_pos_left (sub_pos.mpr order)]
  constructor <;> intro _ <;> linarith

/-- The next number above a double; it may be too great for the format. -/
theorem exists_next (regular : Format.double.Regular m e) :
    ∃ (k : Nat) (f : Int), k < 2 ^ Format.double.precision ∧ Format.double.leastExponent ≤ f ∧
      (k : ℝ) * 2 ^ f = (m + 1) * 2 ^ e := by
  have least := regular.least
  rcases eq_or_lt_of_le (Nat.succ_le_of_lt regular.fits) with grows | fits
  · refine ⟨2 ^ 52, e + 1, by decide, by omega, ?_⟩
    have grown : (m : ℝ) + 1 = 2 ^ 53 := by exact_mod_cast grows
    rw [grown, zpow_add_one₀ two_ne_zero]
    push_cast
    ring
  · exact ⟨m + 1, e, fits, least, by push_cast; rfl⟩

theorem exists_previous (regular : Format.double.Regular m e) (positive : 0 < m) :
    ∃ (k : Nat) (f : Int), k < 2 ^ Format.double.precision ∧ Format.double.leastExponent ≤ f ∧
      (k : ℝ) * 2 ^ f = (m - quartersBelow m e / 2 : ℝ) * 2 ^ e := by
  by_cases narrow : m = Format.double.fullMantissa ∧ Format.double.leastExponent < e
  · have quarters : quartersBelow m e = 1 := if_pos narrow
    refine ⟨2 ^ 53 - 1, e - 1, by decide, by omega, ?_⟩
    have full : (m : ℝ) = 2 ^ 52 := by exact_mod_cast narrow.1
    rw [quarters, full, zpow_sub_one₀ two_ne_zero, Nat.cast_sub (by decide)]
    push_cast
    ring
  · have quarters : quartersBelow m e = 2 := if_neg narrow
    refine ⟨m - 1, e, (Nat.sub_le m 1).trans_lt regular.fits, regular.least, ?_⟩
    rw [quarters, Nat.cast_pred positive]
    push_cast
    ring

/-- What is rounded to a double lies no farther off than the middles between it and its
neighbours. -/
theorem covers_of_prefers (regular : Format.double.Regular m e) (positive : 0 < m)
    (prefers : Format.double.Prefers q m e) : Covers m e q := by
  have place : (0 : ℝ) < 2 ^ e := zpow_pos two_pos e
  have some : (0 : ℝ) < quartersBelow m e := Nat.cast_pos.mpr (quartersBelow_pos m e)
  obtain ⟨k, f, fits, least, next⟩ := exists_next regular
  obtain ⟨k', f', fits', least', previous⟩ := exists_previous regular positive
  have preferredUp := prefers k f fits least
  have preferredDown := prefers k' f' fits' least'
  have up : (m : ℝ) * 2 ^ e < k * 2 ^ f := by
    rw [next]
    exact mul_lt_mul_of_pos_right (by linarith) place
  have down : (k' : ℝ) * 2 ^ f' < m * 2 ^ e := by
    rw [previous]
    exact mul_lt_mul_of_pos_right (by linarith) place
  have upperEnd : (m * 2 ^ e + k * 2 ^ f) / 2 = ((m : ℝ) + 1 / 2) * 2 ^ e := by
    rw [next]
    ring
  have lowerEnd : (k' * 2 ^ f' + m * 2 ^ e) / 2 = ((m : ℝ) - quartersBelow m e / 4) * 2 ^ e := by
    rw [previous]
    ring
  have upper := (abs_sub_le_iff_le_middle up q).mp preferredUp.le
  have lower := (abs_sub_le_iff_middle_le down q).mp preferredDown.le
  rw [upperEnd] at upper
  rw [lowerEnd] at lower
  refine ⟨(le_div_iff₀ place).mpr lower, (div_le_iff₀ place).mpr upper, fun odd => ⟨?_, ?_⟩⟩
  · intro same
    refine (preferredDown.lt_of_odd odd down.ne).not_ge ((abs_sub_le_iff_le_middle down q).mpr ?_)
    rw [lowerEnd, same, div_mul_cancel₀ q place.ne']
  · intro same
    refine (preferredUp.lt_of_odd odd up.ne').not_ge ((abs_sub_le_iff_middle_le up q).mpr ?_)
    rw [upperEnd, ← same, div_mul_cancel₀ q place.ne']

theorem Covers.pos (covers : Covers m e q) (positive : 0 < m) : 0 < q := by
  have lower := covers.lower
  have few : (quartersBelow m e : ℝ) ≤ 2 := by exact_mod_cast quartersBelow_le m e
  have some : (1 : ℝ) ≤ m := by exact_mod_cast positive
  have units : 0 < q / 2 ^ e := by linarith
  exact (div_pos_iff_of_pos_right (zpow_pos two_pos e)).mp units

/-- A whole number is only rounded to a double with a fractional last place if it is that double. -/
theorem Covers.eq_natCast {whole : Nat} (covers : Covers m e whole) (fraction : e ≤ 0) :
    (m : ℝ) * 2 ^ e = whole := by
  obtain ⟨places, rfl⟩ : ∃ places : Nat, e = -(places : Int) := ⟨(-e).toNat, by omega⟩
  have scaled : (whole : ℝ) / 2 ^ (-(places : Int)) = (whole * 2 ^ places : Nat) := by
    rw [zpow_neg, div_inv_eq_mul, zpow_natCast]
    push_cast
    rfl
  have near := covers.roundsToWhole.near
  rw [scaled] at near
  have close : |((whole * 2 ^ places : Nat) : Int) - m| < 1 := by
    have closeReal : |((whole * 2 ^ places : Nat) : ℝ) - m| < 1 := by linarith
    exact_mod_cast closeReal
  have same : whole * 2 ^ places = m := by
    have sameInt := sub_eq_zero.mp (Int.abs_lt_one_iff.mp close)
    exact_mod_cast sameInt
  rw [← same, ← scaled, div_mul_cancel₀ _ (zpow_pos two_pos _).ne']

end Covers

/-! ### Doubles above and below zero -/

theorem Value.toReal_not (negative : Bool) (m : Nat) (e : Int) :
    (Value.finite (!negative) m e).toReal = -(Value.finite negative m e).toReal := by
  cases negative <;> simp [Value.toReal]

theorem exists_negated {x : Float} (finite : x.isFinite = true) :
    ∃ y : Float, y.isFinite = true ∧ (Value.ofFloat y).toReal = -(Value.ofFloat x).toReal := by
  obtain ⟨negative, m, e, value⟩ := Value.isFinite_iff.mp finite
  have negated := Value.ofFloat_toFloat (Format.regular_decode value) (!negative)
  refine ⟨_, Value.isFinite_iff.mpr ⟨_, _, _, negated⟩, ?_⟩
  rw [negated, value, Value.toReal_not]

theorem RoundsTo.neg {q : ℝ} {x y : Float} {negative : Bool} {m : Nat} {e : Int}
    (rounds : RoundsTo q x) (value : Value.ofFloat x = .finite negative m e)
    (opposite : Value.ofFloat y = .finite (!negative) m e) : RoundsTo (-q) y := by
  have negated : (Value.ofFloat y).toReal = -(Value.ofFloat x).toReal := by
    rw [opposite, value, Value.toReal_not]
  have mirrored (a b : ℝ) : |-a - b| = |a - -b| := by
    rw [← abs_neg]
    congr 1
    ring
  refine ⟨by rw [abs_neg]; exact rounds.below, Value.isFinite_iff.mpr ⟨_, _, _, opposite⟩,
    fun z finite => ?_, fun z finite => ?_⟩
  · obtain ⟨z', finite', mirror⟩ := exists_negated finite
    rw [mirrored, mirrored, negated, neg_neg, ← mirror]
    exact rounds.nearest z' finite'
  · obtain ⟨z', finite', mirror⟩ := exists_negated finite
    rw [mirrored, mirrored, negated, neg_neg, ← mirror]
    intro different tied
    have apart : (Value.ofFloat z').toReal ≠ (Value.ofFloat x).toReal := by
      rw [mirror]
      exact fun same => different (by linarith)
    have even := rounds.even z' finite' apart tied
    rw [← Format.decode_parity value] at even
    rw [← Format.decode_parity opposite]
    exact even

section Double

variable {x : Float} {negative : Bool} {m : Nat} {e : Int} {q : ℝ}

theorem Covers.roundsTo_pos (covers : Covers m e q) (positive : 0 < m)
    (value : Value.ofFloat x = .finite false m e) : RoundsTo q x := by
  have rounds := covers.rounds (Format.regular_decode value)
  refine ((roundsTo_iff (covers.pos positive) rounds).mpr ⟨?_, ?_⟩).1
  · exact bne_iff_ne.mpr positive.ne'
  · exact Value.toFloat_of_ofFloat_eq value

theorem Covers.roundsTo (covers : Covers m e q) (positive : 0 < m)
    (value : Value.ofFloat x = .finite negative m e) :
    RoundsTo (if negative then -q else q) x := by
  cases negative with
  | false => exact covers.roundsTo_pos positive value
  | true =>
      have mirrored := Value.ofFloat_toFloat (Format.regular_decode value) false
      exact (covers.roundsTo_pos positive mirrored).neg mirrored value

theorem covers_of_roundsTo_pos {sign : Bool} {n : Nat} {k : Int} (positive : 0 < m)
    (value : Value.ofFloat x = .finite false m e)
    (rounds : RoundsTo ((if sign then -(n : ℝ) else n) * 10 ^ k) x) :
    Covers m e (n * 10 ^ k) := by
  have power : (0 : ℝ) < 10 ^ k := by positivity
  have above : 0 < x := by
    refine (Value.isPositive_ofFloat.mp ?_).2
    rw [value]
    exact bne_iff_ne.mpr positive.ne'
  have mantissa := (mul_pos_iff_of_pos_right power).mp (pos_of_roundsTo rounds above)
  cases sign with
  | true => exact absurd mantissa (not_lt.mpr (neg_nonpos.mpr (Nat.cast_nonneg n)))
  | false =>
      have preferred := rounds_round (Nat.cast_pos.mp mantissa) k
      obtain ⟨aboveZero, made⟩ :=
        (roundsTo_iff (mul_pos mantissa power) preferred).mp ⟨rounds, above⟩
      generalize Reading.round Format.double (.decimal false n k) = rounded at *
      cases preferred with
      | overflow beyond => exact Bool.noConfusion aboveZero
      | finite regular below prefers =>
          have same := (Value.ofFloat_toFloat regular false).symm.trans (made ▸ value)
          obtain ⟨-, rfl, rfl⟩ := Value.finite.inj same
          exact covers_of_prefers regular positive prefers

/-- The interval of a double covers every decimal that is rounded to the double, apart from the
sign. -/
theorem covers_of_roundsTo {sign : Bool} {n : Nat} {k : Int} (positive : 0 < m)
    (value : Value.ofFloat x = .finite negative m e)
    (rounds : RoundsTo ((if sign then -(n : ℝ) else n) * 10 ^ k) x) :
    Covers m e (n * 10 ^ k) := by
  cases negative with
  | false => exact covers_of_roundsTo_pos positive value rounds
  | true =>
      have mirrored := Value.ofFloat_toFloat (Format.regular_decode value) false
      have opposite := rounds.neg value mirrored
      have turned : -((if sign then -(n : ℝ) else n) * 10 ^ k) =
          (if !sign then -(n : ℝ) else n) * 10 ^ k := by
        cases sign <;> simp
      rw [turned] at opposite
      exact covers_of_roundsTo_pos positive mirrored opposite

end Double

end Chronogram.Number
