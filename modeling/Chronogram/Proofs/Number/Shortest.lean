import Chronogram.Number.Decimal
import Chronogram.Proofs.Number.Interval

/-!
The shortest decimal of a double.

On a decimal grid, an interval is a range of multiples. If any multiple on a coarser grid is rounded
to a double, then one next to the double is, so the search never misses one; and since it goes from
coarse grids to fine ones, what it finds has no more digits than any other decimal that is rounded
to the double. On the grid of the seventeenth digit there always is one.
-/

namespace Chronogram.Number

theorem scaleByTwo_fst_pos {n : Nat} (positive : 0 < n) (d : Nat) (exponent : Int) :
    0 < (scaleByTwo n d exponent).1 := by
  cases exponent with
  | ofNat up => exact positive
  | negSucc down => exact Nat.pos_of_ne_zero (by simpa [scaleByTwo] using positive.ne')

theorem scaleByTwo_quarter (e : Int) :
    ((scaleByTwo 1 4 (-e)).1 : ℝ) / (scaleByTwo 1 4 (-e)).2 = 2 ^ e / 4 := by
  rw [scaleByTwo_quotient, zpow_neg, div_inv_eq_mul]
  push_cast
  ring

namespace Decimal

theorem length_pos (n : Nat) : 0 < length n :=
  Nat.length_toDigits_pos

theorem length_le_iff {n k : Nat} (some : 0 < k) : length n ≤ k ↔ n < 10 ^ k :=
  Nat.length_toDigits_le_iff (by decide) some

/-- The whole part of a quotient lies between the powers of ten that its digits say. -/
theorem length_div_bounds {n d : Nat} (denominator : 0 < d) (order : d ≤ n) :
    10 ^ (length (n / d) - 1) * d ≤ n ∧ n < 10 ^ length (n / d) * d := by
  have lower := ten_pow_length_le (Nat.div_pos order denominator)
  have upper := lt_ten_pow_length (n / d)
  exact ⟨(Nat.le_div_iff_mul_le denominator).mp lower,
    (Nat.div_lt_iff_lt_mul denominator).mp upper⟩

theorem pointOf_bounds {n d : Nat} (numerator : 0 < n) (denominator : 0 < d) :
    (10 : ℝ) ^ (pointOf n d - 1) ≤ (n : ℝ) / d ∧ (n : ℝ) / d < 10 ^ pointOf n d := by
  have positive : (0 : ℝ) < d := Nat.cast_pos.mpr denominator
  unfold pointOf
  split_ifs with order
  · obtain ⟨lower, upper⟩ := length_div_bounds denominator order
    rw [← Nat.cast_pred (length_pos _), zpow_natCast, zpow_natCast, le_div_iff₀ positive,
      div_lt_iff₀ positive]
    exact ⟨by exact_mod_cast lower, by exact_mod_cast upper⟩
  · -- Below one, the bounds are those of the inverse, the other way round.
    obtain ⟨lower, upper⟩ := length_div_bounds numerator (show n ≤ d - 1 by omega)
    have some := length_pos ((d - 1) / n)
    generalize length ((d - 1) / n) = places at *
    have down : (1 : Int) - places - 1 = -(places : Int) := by omega
    have up : (1 : Int) - places = -((places - 1 : Nat) : Int) := by omega
    rw [down, up, zpow_neg, zpow_neg, zpow_natCast, zpow_natCast, le_div_iff₀ positive,
      div_lt_iff₀ positive, inv_mul_le_iff₀ (by positivity), lt_inv_mul_iff₀ (by positivity)]
    have above : d ≤ 10 ^ places * n := by omega
    have below : 10 ^ (places - 1) * n < d := by omega
    exact ⟨by exact_mod_cast above, by exact_mod_cast below⟩

theorem zpow_ten (g : Int) :
    (10 : ℝ) ^ g = (10 ^ g.toNat : Nat) / (10 ^ (-g).toNat : Nat) := by
  obtain ⟨k, rfl | rfl⟩ := Int.eq_nat_or_neg g
  · simp
  · simp

/-! ### Grids -/

theorem least_le_iff {closed : Prop} [Decidable closed] {lower step n : Nat} (positive : 0 < step) :
    (if closed then (lower + step - 1) / step else lower / step + 1) ≤ n ↔
      lower ≤ n * step ∧ (¬closed → lower ≠ n * step) := by
  split_ifs with isClosed
  · rw [← Nat.ceilDiv_eq_add_pred_div, ceilDiv_le_iff_le_mul positive, mul_comm]
    simp [isClosed]
  · rw [Nat.succ_le_iff, Nat.div_lt_iff_lt_mul positive, lt_iff_le_and_ne]
    simp [isClosed]

theorem le_greatest_iff {closed : Prop} [Decidable closed] {upper step n : Nat}
    (positive : 0 < step) (some : 0 < upper) :
    n ≤ (if closed then upper / step else (upper + step - 1) / step - 1) ↔
      n * step ≤ upper ∧ (¬closed → n * step ≠ upper) := by
  split_ifs with isClosed
  · rw [Nat.le_div_iff_mul_le positive]
    simp [isClosed]
  · have nonempty : 0 < (upper + step - 1) / step := Nat.div_pos (by omega) positive
    rw [Nat.le_sub_one_iff_lt nonempty, ← not_le, ← Nat.ceilDiv_eq_add_pred_div,
      ceilDiv_le_iff_le_mul positive, not_le, mul_comm, lt_iff_le_and_ne]
    simp [isClosed]

/-- An interval on a grid holds the multiples that are rounded to a double, and the multiple next to
the double below it. -/
structure Interval.Describes (interval : Interval) (m : Nat) (e grid : Int) : Prop where
  contains_iff : ∀ n, interval.contains n = true ↔ Covers m e (n * 10 ^ grid)
  centre_le : (interval.centre : ℝ) * 10 ^ grid ≤ m * 2 ^ e
  lt_centre : (m : ℝ) * 2 ^ e < (interval.centre + 1) * 10 ^ grid

theorem describes_of_ratio {m : Nat} {e grid : Int} {part step : Nat} (some : 0 < part)
    (positive : 0 < step) (nonzero : 0 < m) (ratio : (part : ℝ) / step = 2 ^ e / 4 / 10 ^ grid) :
    Interval.Describes
      { least := if m % 2 = 0 then ((4 * m - quartersBelow m e) * part + step - 1) / step
          else (4 * m - quartersBelow m e) * part / step + 1
        centre := 4 * m * part / step
        isExact := 4 * m * part % step = 0
        greatest := if m % 2 = 0 then (4 * m + 2) * part / step
          else ((4 * m + 2) * part + step - 1) / step - 1 } m e grid := by
  have place : (0 : ℝ) < 2 ^ e := zpow_pos two_pos e
  have tens : (0 : ℝ) < 10 ^ grid := zpow_pos (by norm_num) grid
  have unit : (0 : ℝ) < 4 * part := mul_pos (by norm_num) (Nat.cast_pos.mpr some)
  have few := quartersBelow_le m e
  -- Everything is counted in the same unit, of which a last place has as many as four parts.
  have multiple (n : Nat) : ((n * step : Nat) : ℝ) = n * 10 ^ grid / 2 ^ e * (4 * part) := by
    rw [div_div, div_eq_div_iff (Nat.cast_pos.mpr positive).ne' (by positivity)] at ratio
    push_cast
    field_simp
    linear_combination -(n : ℝ) * ratio
  have lowerEnd : (((4 * m - quartersBelow m e) * part : Nat) : ℝ) =
      (m - quartersBelow m e / 4) * (4 * part) := by
    rw [Nat.cast_mul, Nat.cast_sub (by omega)]
    push_cast
    ring
  have upperEnd : (((4 * m + 2) * part : Nat) : ℝ) = (m + 1 / 2) * (4 * part) := by
    push_cast
    ring
  have double : ((4 * m * part : Nat) : ℝ) = m * (4 * part) := by
    push_cast
    ring
  refine ⟨fun n => ?_, ?_, ?_⟩
  · have lower : (4 * m - quartersBelow m e) * part ≤ n * step ↔
        (m : ℝ) - quartersBelow m e / 4 ≤ n * 10 ^ grid / 2 ^ e := by
      rw [← Nat.cast_le (α := ℝ), lowerEnd, multiple, mul_le_mul_iff_of_pos_right unit]
    have upper : n * step ≤ (4 * m + 2) * part ↔
        (n : ℝ) * 10 ^ grid / 2 ^ e ≤ (m : ℝ) + 1 / 2 := by
      rw [← Nat.cast_le (α := ℝ), upperEnd, multiple, mul_le_mul_iff_of_pos_right unit]
    have atLower : (4 * m - quartersBelow m e) * part = n * step ↔
        (m : ℝ) - quartersBelow m e / 4 = n * 10 ^ grid / 2 ^ e := by
      rw [← Nat.cast_inj (R := ℝ), lowerEnd, multiple, mul_left_inj' unit.ne']
    have atUpper : n * step = (4 * m + 2) * part ↔
        (n : ℝ) * 10 ^ grid / 2 ^ e = (m : ℝ) + 1 / 2 := by
      rw [← Nat.cast_inj (R := ℝ), upperEnd, multiple, mul_left_inj' unit.ne']
    rw [Interval.contains, Bool.and_eq_true, decide_eq_true_eq, decide_eq_true_eq,
      least_le_iff positive, le_greatest_iff positive (Nat.mul_pos (by omega) some), lower, upper,
      Ne, Ne, atLower, atUpper, Nat.mod_two_not_eq_zero]
    constructor
    · rintro ⟨⟨lower, notLower⟩, upper, notUpper⟩
      exact ⟨lower, upper, fun odd => ⟨notLower odd, notUpper odd⟩⟩
    · rintro ⟨lower, upper, inside⟩
      exact ⟨⟨lower, fun odd => (inside odd).1⟩, upper, fun odd => (inside odd).2⟩
  · rw [← div_le_iff₀ place, ← mul_le_mul_iff_of_pos_right unit, ← multiple, ← double, Nat.cast_le]
    exact Nat.div_mul_le_self _ _
  · rw [← lt_div_iff₀ place, ← mul_lt_mul_iff_of_pos_right unit, ← Nat.cast_succ, ← multiple,
      ← double, Nat.cast_lt]
    exact (Nat.div_lt_iff_lt_mul positive).mp (Nat.lt_succ_self _)

/-- The grid of the interval of a double starts at its eighteenth digit. -/
theorem describes_intervalOf {m : Nat} (positive : 0 < m) (e : Int) :
    (intervalOf m e).2.Describes m e (intervalOf m e).1 ∧
      (10 : ℝ) ^ ((intervalOf m e).1 + 17) ≤ m * 2 ^ e ∧
      (m : ℝ) * 2 ^ e < 10 ^ ((intervalOf m e).1 + 18) := by
  have numerator : 0 < (scaleByTwo 1 4 (-e)).1 := scaleByTwo_fst_pos one_pos 4 (-e)
  have denominator : 0 < (scaleByTwo 1 4 (-e)).2 := scaleByTwo_snd_pos (by decide) (-e)
  have quarter := scaleByTwo_quarter e
  unfold intervalOf
  generalize scaleByTwo 1 4 (-e) = scaled at *
  obtain ⟨unit, whole⟩ := scaled
  dsimp only at *
  have double : ((4 * m * unit : Nat) : ℝ) / whole = m * 2 ^ e := by
    push_cast
    rw [mul_div_assoc, quarter]
    ring
  have size := pointOf_bounds (Nat.mul_pos (Nat.mul_pos four_pos positive) numerator) denominator
  rw [double] at size
  refine ⟨?_, le_of_eq_of_le ?_ size.1, lt_of_lt_of_eq size.2 ?_⟩
  · generalize pointOf (4 * m * unit) whole - finestPlaces = grid
    simp only [mul_assoc _ unit]
    refine describes_of_ratio (Nat.mul_pos numerator (Nat.pow_pos (by decide)))
      (Nat.mul_pos denominator (Nat.pow_pos (by decide))) positive ?_
    rw [zpow_ten, ← quarter, Nat.pow_eq, Nat.pow_eq, Nat.cast_mul, Nat.cast_mul, div_div_div_eq]
  · rw [finestPlaces]
    congr 1
    omega
  · rw [finestPlaces]
    congr 1
    omega

/-! ### The search -/

section Search

variable {interval : Interval} {tie : Tie} {step digits : Nat}

/-- What is found on a coarser grid is one of the two neighbours of the double. -/
theorem neighbour_of_nearest? (found : interval.nearest? tie step = some digits) :
    interval.contains (digits * step) = true ∧
      (digits = interval.centre / step ∨ digits = interval.centre / step + 1) := by
  unfold Interval.nearest? at found
  dsimp only at found
  split_ifs at found with both nearBelow below above
  all_goals obtain rfl := Option.some.inj found
  · exact ⟨(Bool.and_eq_true_iff.mp both).1, .inl rfl⟩
  · exact ⟨(Bool.and_eq_true_iff.mp both).2, .inr rfl⟩
  · exact ⟨below, .inl rfl⟩
  · exact ⟨above, .inr rfl⟩

theorem not_contains_of_nearest? (missing : interval.nearest? tie step = none) :
    ¬interval.contains (interval.centre / step * step) = true ∧
      ¬interval.contains ((interval.centre / step + 1) * step) = true := by
  unfold Interval.nearest? at missing
  dsimp only at missing
  split_ifs at missing with both below above
  exact ⟨below, above⟩

variable {m : Nat} {e grid : Int} {power : Nat}

theorem multiple_mul_zpow (n : Nat) (grid : Int) (power : Nat) :
    ((n * 10 ^ power : Nat) : ℝ) * 10 ^ grid = n * 10 ^ (grid + power) := by
  rw [zpow_add₀ (by norm_num), zpow_natCast]
  push_cast
  ring

section Describes

variable (describes : interval.Describes m e grid)
include describes

theorem Interval.Describes.below_le (power : Nat) :
    ((interval.centre / 10 ^ power : Nat) : ℝ) * 10 ^ (grid + power) ≤ m * 2 ^ e := by
  have reached : interval.centre / 10 ^ power * 10 ^ power ≤ interval.centre :=
    Nat.div_mul_le_self _ _
  rw [← multiple_mul_zpow]
  exact (mul_le_mul_of_nonneg_right (Nat.cast_le.mpr reached) (by positivity)).trans
    describes.centre_le

theorem Interval.Describes.lt_above (power : Nat) :
    (m : ℝ) * 2 ^ e < (interval.centre / 10 ^ power + 1 : Nat) * 10 ^ (grid + power) := by
  have passed : interval.centre + 1 ≤ (interval.centre / 10 ^ power + 1) * 10 ^ power :=
    (Nat.div_lt_iff_lt_mul (Nat.pow_pos (by decide))).mp (Nat.lt_succ_self _)
  rw [← multiple_mul_zpow]
  refine describes.lt_centre.trans_le ?_
  rw [← Nat.cast_succ]
  exact mul_le_mul_of_nonneg_right (Nat.cast_le.mpr passed) (by positivity)

/-- A coarser grid on which nothing is found has no number that is rounded to the double: of those
on either side of the double, its neighbour is the nearest. -/
theorem Interval.Describes.not_covers (missing : interval.nearest? tie (10 ^ power) = none)
    (k : Nat) : ¬Covers m e (k * 10 ^ (grid + power)) := by
  intro covers
  obtain ⟨notBelow, notAbove⟩ := not_contains_of_nearest? missing
  rw [describes.contains_iff, multiple_mul_zpow] at notBelow notAbove
  have positive : (0 : ℝ) ≤ 10 ^ (grid + power) := by positivity
  rcases le_or_gt k (interval.centre / 10 ^ power) with below | above
  · exact notBelow (covers.between (covers_self m e)
      (mul_le_mul_of_nonneg_right (Nat.cast_le.mpr below) positive) (describes.below_le power))
  · exact notAbove ((covers_self m e).between covers (describes.lt_above power).le
      (mul_le_mul_of_nonneg_right (Nat.cast_le.mpr above) positive))

end Describes

end Search

theorem le_quartersBelow {m : Nat} (fits : m < 2 ^ 53) (e : Int) :
    m ≤ quartersBelow m e * 2 ^ 52 := by
  unfold quartersBelow
  split_ifs with narrow
  · rw [narrow.1]
    decide
  · omega

/-- On the grid of the seventeenth digit, the nearest multiple is rounded to the double: half a step
of this grid is less than a quarter of the last place below a full mantissa, and less than half of
it above. -/
theorem exists_covers {m : Nat} {e grid : Int} (fits : m < 2 ^ 53)
    (size : (10 : ℝ) ^ (grid + 17) ≤ m * 2 ^ e) : ∃ k : Nat, Covers m e (k * 10 ^ (grid + 1)) := by
  have place : (0 : ℝ) < 2 ^ e := zpow_pos two_pos e
  have step : (0 : ℝ) < 10 ^ (grid + 1) := by positivity
  have enough : (m : ℝ) ≤ quartersBelow m e * 2 ^ 52 := by exact_mod_cast le_quartersBelow fits e
  have few : (quartersBelow m e : ℝ) ≤ 2 := by exact_mod_cast quartersBelow_le m e
  have some : (0 : ℝ) < quartersBelow m e := Nat.cast_pos.mpr (quartersBelow_pos m e)
  have split : (10 : ℝ) ^ (grid + 17) = 10 ^ (grid + 1) * 10 ^ 16 := by
    rw [← zpow_natCast, ← zpow_add₀ (by norm_num)]
    congr 1
    omega
  let steps : ℝ := m * 2 ^ e / 10 ^ (grid + 1)
  have nearest : |(⌊steps + 1 / 2⌋₊ : ℝ) - steps| ≤ 1 / 2 := by
    have floor := Nat.floor_le (show 0 ≤ steps + 1 / 2 by positivity)
    have next := Nat.lt_floor_add_one (steps + 1 / 2)
    rw [abs_le]
    constructor <;> linarith
  refine ⟨⌊steps + 1 / 2⌋₊, ?_⟩
  generalize (⌊steps + 1 / 2⌋₊ : ℝ) = k at *
  have size' : (10 : ℝ) ^ (grid + 1) / 2 ^ e * 10 ^ 16 ≤ m := by
    rw [div_mul_eq_mul_div, div_le_iff₀ place, ← split]
    exact size
  have count : k * 10 ^ (grid + 1) / 2 ^ e - m = (k - steps) * (10 ^ (grid + 1) / 2 ^ e) := by
    simp only [steps]
    field_simp
  have unit : (0 : ℝ) < 10 ^ (grid + 1) / 2 ^ e := by positivity
  have close : |k * 10 ^ (grid + 1) / 2 ^ e - m| ≤ 1 / 2 * (10 ^ (grid + 1) / 2 ^ e) := by
    rw [count, abs_mul, abs_of_pos unit]
    exact mul_le_mul_of_nonneg_right nearest unit.le
  obtain ⟨lower, upper⟩ := abs_le.mp close
  refine covers_of_lt ?_ ?_ <;> linarith

theorem mem_gridSteps {power step : Nat} :
    (power, step) ∈ gridSteps ↔ 0 < power ∧ power ≤ 17 ∧ step = 10 ^ power := by
  have steps : (power, step) ∈ gridSteps ↔
      ∃ places < 17, 17 - places = power ∧ 10 ^ (17 - places) = step := by
    simp [gridSteps, finestPlaces]
  rw [steps]
  constructor
  · rintro ⟨places, few, rfl, rfl⟩
    exact ⟨by omega, by omega, rfl⟩
  · rintro ⟨some, few, rfl⟩
    have back : 17 - (17 - power) = power := by omega
    exact ⟨17 - power, by omega, back, by rw [back]⟩

theorem pairwise_gridSteps : gridSteps.Pairwise fun coarse fine => fine.1 < coarse.1 := by
  decide

/-- The search over the grids, from coarse to fine. -/
theorem shortest_eq (tie : Tie) (m : Nat) (e : Int) :
    shortest tie m e = stripZeros 20 ((gridSteps.findSome? fun grid =>
      ((intervalOf m e).2.nearest? tie grid.2).map fun digits =>
        ⟨digits, (intervalOf m e).1 + grid.1⟩).getD ⟨0, 0⟩) := rfl

/-- The search ends on the coarsest grid with a number that is rounded to the double. -/
theorem exists_found (tie : Tie) {m : Nat} (fits : m < 2 ^ 53) (positive : 0 < m) (e : Int) :
    ∃ power digits : Nat, 0 < power ∧ power ≤ 17 ∧
      (intervalOf m e).2.nearest? tie (10 ^ power) = some digits ∧
      (∀ coarser : Nat, coarser ≤ 17 → power < coarser →
        (intervalOf m e).2.nearest? tie (10 ^ coarser) = none) ∧
      shortest tie m e = stripZeros 20 ⟨digits, (intervalOf m e).1 + power⟩ := by
  obtain ⟨describes, size, -⟩ := describes_intervalOf positive e
  rw [shortest_eq]
  generalize intervalOf m e = framed at *
  obtain ⟨grid, interval⟩ := framed
  dsimp only at *
  cases found : gridSteps.findSome? fun coarser =>
      (interval.nearest? tie coarser.2).map fun digits =>
        (⟨digits, grid + coarser.1⟩ : Decimal) with
  | none =>
      obtain ⟨k, covers⟩ := exists_covers fits size
      have last : (1, 10 ^ 1) ∈ gridSteps := mem_gridSteps.mpr ⟨one_pos, by decide, rfl⟩
      have missing := Option.map_eq_none_iff.mp (List.findSome?_eq_none_iff.mp found _ last)
      exact absurd covers (describes.not_covers missing k)
  | some d =>
      obtain ⟨coarse, ⟨power, step⟩, fine, steps, here, before⟩ :=
        List.findSome?_eq_some_iff.mp found
      obtain ⟨digits, hit, rfl⟩ := Option.map_eq_some_iff.mp here
      have inside : (power, step) ∈ gridSteps := steps ▸ List.mem_append_right _ List.mem_cons_self
      obtain ⟨some, few, rfl⟩ := mem_gridSteps.mp inside
      refine ⟨power, digits, some, few, hit, fun coarser few' less => ?_, rfl⟩
      have tried : (coarser, 10 ^ coarser) ∈ gridSteps := mem_gridSteps.mpr ⟨by omega, few', rfl⟩
      have ordered := pairwise_gridSteps
      rw [steps] at ordered tried
      obtain ⟨-, finer, -⟩ := List.pairwise_append.mp ordered
      rcases List.mem_append.mp tried with first | later
      · exact Option.map_eq_none_iff.mp (before _ first)
      · rcases List.mem_cons.mp later with same | last
        · exact absurd (Prod.mk.inj same).1 less.ne'
        · exact absurd ((List.pairwise_cons.mp finer).1 _ last) less.not_gt

/-! ### Trailing zeros -/

noncomputable def toReal (d : Decimal) : ℝ :=
  d.digits * ((10 : Nat) : ℝ) ^ d.exponent

theorem toReal_eq (d : Decimal) : d.toReal = d.digits * 10 ^ d.exponent := by
  rw [toReal, Nat.cast_ofNat]

theorem toReal_of_nonneg {d : Decimal} (whole : 0 ≤ d.exponent) :
    d.toReal = (d.digits * 10 ^ d.exponent.toNat : Nat) := by
  have power : (10 : ℝ) ^ d.exponent = 10 ^ d.exponent.toNat := by
    rw [← zpow_natCast, Int.toNat_of_nonneg whole]
  rw [toReal_eq, power]
  push_cast
  rfl

@[simp]
theorem toReal_stripZeros (fuel : Nat) (d : Decimal) : (stripZeros fuel d).toReal = d.toReal := by
  fun_induction stripZeros fuel d with
  | case1 d => rfl
  | case2 fuel d zero inductionHypothesis =>
      have moved : (d.digits : ℝ) = (d.digits / 10 : Nat) * 10 := by
        exact_mod_cast (Nat.div_mul_cancel (Nat.dvd_of_mod_eq_zero zero.2)).symm
      rw [inductionHypothesis, toReal_eq, toReal_eq, moved, zpow_add_one₀ (by norm_num)]
      ring
  | case3 fuel d _ => rfl

theorem exponent_le_stripZeros (fuel : Nat) (d : Decimal) :
    d.exponent ≤ (stripZeros fuel d).exponent := by
  fun_induction stripZeros fuel d with
  | case1 d => exact le_refl _
  | case2 fuel d zero inductionHypothesis =>
      exact (Int.le_add_one (le_refl _)).trans inductionHypothesis
  | case3 fuel d _ => exact le_refl _

theorem length_stripZeros_le (fuel : Nat) (d : Decimal) :
    length (stripZeros fuel d).digits ≤ length d.digits := by
  fun_induction stripZeros fuel d with
  | case1 d => exact le_refl _
  | case2 fuel d zero inductionHypothesis =>
      refine inductionHypothesis.trans ((length_le_iff (length_pos _)).mpr ?_)
      exact (Nat.div_le_self _ _).trans_lt (lt_ten_pow_length _)
  | case3 fuel d _ => exact le_refl _

/-- Of a power of ten one digit is left. -/
theorem digits_stripZeros_pow (power : Nat) {fuel : Nat} (enough : power ≤ fuel) (exponent : Int) :
    (stripZeros fuel ⟨10 ^ power, exponent⟩).digits = 1 := by
  induction power generalizing fuel exponent with
  | zero => cases fuel <;> rfl
  | succ power inductionHypothesis =>
      obtain ⟨fuel, rfl⟩ : ∃ less, fuel = less + 1 := ⟨fuel - 1, by omega⟩
      have zero : 10 ^ (power + 1) ≠ 0 ∧ 10 ^ (power + 1) % 10 = 0 :=
        ⟨pow_ne_zero _ (by decide), by rw [pow_succ, Nat.mul_mod_left]⟩
      have shorter : 10 ^ (power + 1) / 10 = 10 ^ power := by
        rw [pow_succ, Nat.mul_div_cancel _ (by decide)]
      rw [stripZeros, if_pos zero]
      dsimp only
      rw [shorter]
      exact inductionHypothesis (by omega) _

/-! ### The shortest decimal -/

section Shortest

variable {m : Nat} {e : Int} (fits : m < 2 ^ 53) (positive : 0 < m) (tie : Tie)
include fits positive

/-- The shortest decimal is rounded to the double. -/
theorem covers_shortest (e : Int) : Covers m e (shortest tie m e).toReal := by
  obtain ⟨power, digits, -, -, hit, -, same⟩ := exists_found tie fits positive e
  obtain ⟨describes, -⟩ := describes_intervalOf positive e
  have covers := (describes.contains_iff _).mp (neighbour_of_nearest? hit).1
  rw [multiple_mul_zpow] at covers
  rw [same, toReal_stripZeros, toReal_eq]
  exact covers

theorem digits_shortest_pos (e : Int) : 0 < (shortest tie m e).digits := by
  have above := (covers_shortest fits positive tie e).pos positive
  refine Nat.pos_of_ne_zero fun zero => above.ne' ?_
  rw [toReal, zero, Nat.cast_zero, zero_mul]

theorem exponent_shortest_nonneg {whole : Nat} (isWhole : (m : ℝ) * 2 ^ e = whole) :
    0 ≤ (shortest tie m e).exponent := by
  obtain ⟨power, digits, some, few, hit, coarser, same⟩ := exists_found tie fits positive e
  obtain ⟨describes, lower, upper⟩ := describes_intervalOf positive e
  generalize intervalOf m e = framed at *
  obtain ⟨grid, interval⟩ := framed
  dsimp only at *
  rw [same]
  refine le_trans ?_ (exponent_le_stripZeros _ _)
  change 0 ≤ grid + power
  by_contra fraction
  have one : (1 : ℝ) ≤ m * 2 ^ e := by
    have above : (0 : ℝ) < m * 2 ^ e := by positivity
    rw [isWhole] at above ⊢
    exact_mod_cast above
  have point : 0 < grid + 18 := by
    by_contra none
    have small : (10 : ℝ) ^ (grid + 18) ≤ 1 := zpow_le_one_of_nonpos₀ (by norm_num) (by omega)
    linarith
  -- The whole numbers are a coarser grid, and the double is one of them.
  have missing := coarser (-grid).toNat (by omega) (by omega)
  refine describes.not_covers missing whole ?_
  have units : grid + ((-grid).toNat : Int) = 0 := by omega
  rw [units, zpow_zero, mul_one, ← isWhole]
  exact covers_self m e

omit fits positive in
/-- The places from the grid on which the search ends up to the first digit of the double bound the
digits that are found: only at the power of ten next above the double there is one more, and then
all but one of them are zeros. -/
theorem length_found_le {interval : Interval} {grid : Int} {power digits : Nat}
    (describes : interval.Describes m e grid) (upper : (m : ℝ) * 2 ^ e < 10 ^ (grid + 18))
    (hit : interval.nearest? tie (10 ^ power) = some digits) (few : power ≤ 17) (exponent : Int) :
    length (stripZeros 20 ⟨digits, exponent⟩).digits ≤ 18 - power := by
  have split : grid + 18 = grid + power + (18 - power : Nat) := by omega
  have less : interval.centre / 10 ^ power < 10 ^ (18 - power) := by
    have lessReal := (describes.below_le power).trans_lt upper
    rw [split, zpow_add₀ (by norm_num : (10 : ℝ) ≠ 0) (grid + power), mul_comm,
      mul_lt_mul_iff_of_pos_left (by positivity), zpow_natCast] at lessReal
    exact_mod_cast lessReal
  have next : digits ≤ 10 ^ (18 - power) := by
    rcases (neighbour_of_nearest? hit).2 with rfl | rfl
    · exact less.le
    · exact less
  rcases eq_or_lt_of_le next with rfl | fits
  · rw [digits_stripZeros_pow (18 - power) (by omega)]
    change 1 ≤ 18 - power
    omega
  · exact (length_stripZeros_le _ _).trans ((length_le_iff (by omega)).mpr fits)

omit fits positive in
/-- A decimal that is rounded to the double is a multiple of the grid that its digits reach, counted
from the first digit of the double; or else the double has reached a power of ten that lies
between them, which is a multiple too. -/
theorem exists_covers_grid {grid k : Int} {n : Nat} (lower : (10 : ℝ) ^ (grid + 17) ≤ m * 2 ^ e)
    (covers : Covers m e (n * 10 ^ k)) :
    ∃ c : Nat, Covers m e (c * 10 ^ (grid + (18 - length n : Int))) := by
  have some := length_pos n
  have multiple {c : Nat} {i j : Int} (above : i ≤ j) :
      (c : ℝ) * 10 ^ j = (c * 10 ^ (j - i).toNat : Nat) * 10 ^ i := by
    rw [multiple_mul_zpow]
    congr 2
    omega
  rcases le_or_gt ((10 : ℝ) ^ (grid + 17)) (n * 10 ^ k) with reached | under
  · have long : (10 : ℝ) ^ (grid + 17) < 10 ^ (k + length n) := by
      refine reached.trans_lt ?_
      rw [add_comm, zpow_add₀ (by norm_num), zpow_natCast]
      exact mul_lt_mul_of_pos_right (by exact_mod_cast lt_ten_pow_length n) (by positivity)
    have further := (zpow_lt_zpow_iff_right₀ (by norm_num)).mp long
    refine ⟨n * 10 ^ (k - (grid + (18 - length n : Int))).toNat, ?_⟩
    rw [← multiple (by omega)]
    exact covers
  · have power := covers.between (covers_self m e) under.le lower
    refine ⟨1 * 10 ^ (grid + 17 - (grid + (18 - length n : Int))).toNat, ?_⟩
    rw [← multiple (by omega), Nat.cast_one, one_mul]
    exact power

/-- No decimal with fewer digits is rounded to the double. -/
theorem length_shortest_le {n : Nat} {k : Int} (covers : Covers m e (n * 10 ^ k)) :
    length (shortest tie m e).digits ≤ length n := by
  obtain ⟨power, digits, some, few, hit, coarser, same⟩ := exists_found tie fits positive e
  obtain ⟨describes, lower, upper⟩ := describes_intervalOf positive e
  obtain ⟨c, covers⟩ := exists_covers_grid lower covers
  generalize intervalOf m e = framed at *
  obtain ⟨grid, interval⟩ := framed
  dsimp only at *
  rw [same]
  refine (length_found_le tie describes upper hit few _).trans ?_
  by_contra shorter
  have missing := coarser (18 - length n) (by have := length_pos n; omega) (by omega)
  refine describes.not_covers missing c ?_
  rw [Nat.cast_sub (by omega)]
  exact covers

end Shortest

end Decimal

end Chronogram.Number
