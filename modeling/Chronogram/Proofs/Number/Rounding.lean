import Chronogram.Number.Binary
import Mathlib.Analysis.Real.Sqrt

/-!
Rounding to a binary format.

A positive number is rounded in two steps: a last place is chosen, and the number of such places is
rounded to a whole number, halves to the even one. The result is preferred to every other number of
the format: it lies nearer, or as near and has the even mantissa. Numbers from half a place behind
the greatest number of the format on become infinite.
-/

namespace Chronogram.Number

/-- The number that a value of a binary format stands for; an infinity and what is no number stand
for zero. -/
noncomputable def Value.toReal : Value → ℝ
  | .finite negative mantissa exponent =>
      (if negative then -(mantissa : ℝ) else mantissa) * 2 ^ exponent
  | .infinite _ | .nan => 0

theorem Value.toReal_pos_iff {value : Value} : 0 < value.toReal ↔ value.isPositive = true := by
  cases value with
  | nan => simp [Value.toReal, Value.isPositive]
  | infinite negative => simp [Value.toReal, Value.isPositive]
  | finite negative mantissa exponent =>
      have power : (0 : ℝ) < 2 ^ exponent := zpow_pos two_pos exponent
      rw [Value.toReal, mul_pos_iff_of_pos_right power]
      cases negative with
      | true => simp [Value.isPositive]
      | false => simp [Value.isPositive, Nat.pos_iff_ne_zero]

/-- The whole number that a number is rounded to: it lies within half a unit, and it is even where
it is half a unit away. -/
structure RoundsToWhole (x : ℝ) (whole : Nat) : Prop where
  near : |x - whole| ≤ 1 / 2
  even : |x - whole| = 1 / 2 → whole % 2 = 0

theorem natCast_div_eq {n d : Nat} (positive : 0 < d) :
    (n : ℝ) / d = (n / d : Nat) + ((n % d : Nat) : ℝ) / d := by
  have nonzero : (d : ℝ) ≠ 0 := Nat.cast_ne_zero.mpr (Nat.pos_iff_ne_zero.mp positive)
  have divided : (n : ℝ) = d * (n / d : Nat) + (n % d : Nat) := by
    exact_mod_cast (Nat.div_add_mod n d).symm
  rw [divided]
  field_simp

theorem RoundsToWhole.of_lt {x : ℝ} {whole : Nat} (close : |x - whole| < 1 / 2) :
    RoundsToWhole x whole :=
  ⟨close.le, fun half => absurd half close.ne⟩

theorem remainder_lt_half_iff {n d : Nat} (positive : 0 < d) :
    ((n % d : Nat) : ℝ) / d < 1 / 2 ↔ 2 * (n % d) < d := by
  rw [div_lt_div_iff₀ (Nat.cast_pos.mpr positive) two_pos, one_mul, mul_comm]
  exact_mod_cast Iff.rfl

theorem half_lt_remainder_iff {n d : Nat} (positive : 0 < d) :
    1 / 2 < ((n % d : Nat) : ℝ) / d ↔ d < 2 * (n % d) := by
  rw [div_lt_div_iff₀ two_pos (Nat.cast_pos.mpr positive), one_mul, mul_comm]
  exact_mod_cast Iff.rfl

theorem roundsToWhole_roundHalfEven {n d : Nat} (positive : 0 < d) :
    RoundsToWhole ((n : ℝ) / d) (roundHalfEven n d) := by
  have nonnegative : (0 : ℝ) ≤ ((n % d : Nat) : ℝ) / d := by positivity
  have belowOne : ((n % d : Nat) : ℝ) / d < 1 := by
    rw [div_lt_one (Nat.cast_pos.mpr positive)]
    exact_mod_cast Nat.mod_lt n positive
  have lessThanHalf := remainder_lt_half_iff (n := n) positive
  have moreThanHalf := half_lt_remainder_iff (n := n) positive
  rw [natCast_div_eq positive]
  unfold roundHalfEven
  generalize ((n % d : Nat) : ℝ) / d = part at *
  generalize n / d = below
  dsimp only
  split_ifs with less more even
  · refine .of_lt (abs_lt.mpr ?_)
    have small := lessThanHalf.mpr less
    constructor <;> linarith
  · refine .of_lt (abs_lt.mpr ?_)
    have great := moreThanHalf.mpr more
    push_cast
    constructor <;> linarith
  · have notLess := mt lessThanHalf.mp less
    have notMore := mt moreThanHalf.mp more
    exact ⟨abs_le.mpr ⟨by linarith, by linarith⟩, fun _ => even⟩
  · have notLess := mt lessThanHalf.mp less
    refine ⟨abs_le.mpr ?_, fun _ => by omega⟩
    push_cast
    constructor <;> linarith

/-- Every other whole number lies farther off, or as far and is odd while the rounded one is even. -/
theorem RoundsToWhole.farther_or_odd {x : ℝ} {whole other : Nat} (rounds : RoundsToWhole x whole)
    (different : other ≠ whole) :
    |x - whole| < |x - other| ∨ (|x - whole| = |x - other| ∧ whole % 2 = 0 ∧ other % 2 = 1) := by
  have apart : (1 : ℝ) ≤ |(whole : ℝ) - other| := by
    have whole_apart : (1 : Int) ≤ |(whole : Int) - other| := by
      rw [le_abs]
      omega
    exact_mod_cast whole_apart
  have detour : |(whole : ℝ) - other| ≤ |x - whole| + |x - other| := by
    rw [abs_sub_comm x whole]
    exact abs_sub_le (whole : ℝ) x other
  have near := rounds.near
  rcases lt_or_eq_of_le (show |x - whole| ≤ |x - other| by linarith) with farther | same
  · exact .inl farther
  · -- Two whole numbers as far from `x` are neighbours, half a unit away on its two sides.
    have half : |x - whole| = 1 / 2 := by linarith
    have even := rounds.even half
    have neighbours : |(whole : Int) - other| ≤ 1 := by
      have neighboursReal : |(whole : ℝ) - other| ≤ 1 := by linarith
      exact_mod_cast neighboursReal
    rw [abs_le] at neighbours
    exact .inr ⟨same, even, by omega⟩

theorem RoundsToWhole.le {x : ℝ} {whole : Nat} (rounds : RoundsToWhole x whole) (other : Nat) :
    |x - whole| ≤ |x - other| := by
  by_cases same : other = whole
  · rw [same]
  · rcases rounds.farther_or_odd same with farther | tie
    · exact farther.le
    · exact tie.1.le

theorem RoundsToWhole.le_of_le {x : ℝ} {whole least : Nat} (rounds : RoundsToWhole x whole)
    (lower : (least : ℝ) ≤ x) : least ≤ whole := by
  by_contra less
  have below : (whole : ℝ) + 1 ≤ least := by exact_mod_cast Nat.lt_of_not_le less
  have near := abs_le.mp rounds.near
  linarith

theorem RoundsToWhole.le_of_lt {x : ℝ} {whole greatest : Nat} (rounds : RoundsToWhole x whole)
    (upper : x < greatest) : whole ≤ greatest := by
  by_contra more
  have above : (greatest : ℝ) + 1 ≤ whole := by exact_mod_cast Nat.lt_of_not_le more
  have near := abs_le.mp rounds.near
  linarith

theorem scaleByTwo_snd_pos {n d : Nat} (positive : 0 < d) (exponent : Int) :
    0 < (scaleByTwo n d exponent).2 := by
  cases exponent with
  | ofNat up => exact Nat.pos_of_ne_zero (by simpa [scaleByTwo] using positive.ne')
  | negSucc down => exact positive

/-- Scaling makes the quotient the number of units of the power of two. -/
theorem scaleByTwo_quotient (n d : Nat) (exponent : Int) :
    ((scaleByTwo n d exponent).1 : ℝ) / (scaleByTwo n d exponent).2 =
      (n : ℝ) / d / 2 ^ exponent := by
  cases exponent with
  | ofNat up =>
      simp only [scaleByTwo, Nat.shiftLeft_eq, Nat.cast_mul, Nat.cast_pow, Nat.cast_ofNat,
        Int.ofNat_eq_natCast, zpow_natCast, div_div]
  | negSucc down =>
      simp only [scaleByTwo, Nat.shiftLeft_eq, Nat.cast_mul, Nat.cast_pow, Nat.cast_ofNat,
        zpow_negSucc]
      field_simp

theorem zpow_log2_le {n : Nat} (positive : 0 < n) : (2 : ℝ) ^ (Nat.log2 n : Int) ≤ n := by
  rw [zpow_natCast]
  exact_mod_cast Nat.log2_self_le positive.ne'

theorem lt_zpow_log2 (n : Nat) : (n : ℝ) < 2 ^ ((Nat.log2 n : Int) + 1) := by
  exact_mod_cast Nat.lt_log2_self (n := n)

/-- The sizes of numerator and denominator leave two powers of two between which a quotient lies. -/
theorem quotient_between {n d : Nat} (numerator : 0 < n) (denominator : 0 < d) :
    (2 : ℝ) ^ ((Nat.log2 n : Int) - Nat.log2 d - 1) < (n : ℝ) / d ∧
      (n : ℝ) / d < 2 ^ ((Nat.log2 n : Int) - Nat.log2 d + 1) := by
  have positive : (0 : ℝ) < d := Nat.cast_pos.mpr denominator
  constructor
  · rw [lt_div_iff₀ positive]
    calc (2 : ℝ) ^ ((Nat.log2 n : Int) - Nat.log2 d - 1) * d
        < 2 ^ ((Nat.log2 n : Int) - Nat.log2 d - 1) * 2 ^ ((Nat.log2 d : Int) + 1) :=
          mul_lt_mul_of_pos_left (lt_zpow_log2 d) (zpow_pos two_pos _)
      _ = 2 ^ (Nat.log2 n : Int) := by
          rw [← zpow_add₀ two_ne_zero]
          congr 1
          ring
      _ ≤ n := zpow_log2_le numerator
  · rw [div_lt_iff₀ positive]
    calc (n : ℝ) < 2 ^ ((Nat.log2 n : Int) + 1) := lt_zpow_log2 n
      _ = 2 ^ ((Nat.log2 n : Int) - Nat.log2 d + 1) * 2 ^ (Nat.log2 d : Int) := by
          rw [← zpow_add₀ two_ne_zero]
          congr 1
          ring
      _ ≤ 2 ^ ((Nat.log2 n : Int) - Nat.log2 d + 1) * d :=
          mul_le_mul_of_nonneg_left (zpow_log2_le denominator) (zpow_pos two_pos _).le

namespace Format

variable (format : Format)

def greatestExponent : Int :=
  format.leastExponent + format.fieldCount - 2

/-- Half a place behind the greatest number of a format. -/
noncomputable def limit : ℝ :=
  (2 ^ format.precision - 1 / 2) * 2 ^ format.greatestExponent

/-- The mantissa and the exponent as a format writes them: the mantissa fits, and it is full unless
the exponent is the least one. -/
structure Regular (mantissa : Nat) (exponent : Int) : Prop where
  fits : mantissa < 2 ^ format.precision
  least : format.leastExponent ≤ exponent
  greatest : exponent ≤ format.greatestExponent
  full : exponent = format.leastExponent ∨ 2 ^ (format.precision - 1) ≤ mantissa

/-- Of two numbers as a format writes them, one with a greater exponent is greater. -/
theorem Regular.mul_lt_mul {m k : Nat} {e f : Int} (first : format.Regular m e)
    (second : format.Regular k f) (precise : 0 < format.precision) (less : e < f) :
    (m : ℝ) * 2 ^ e < k * 2 ^ f := by
  have full : (2 ^ (format.precision - 1) : Nat) ≤ k :=
    second.full.resolve_left (lt_of_le_of_lt first.least less).ne'
  calc (m : ℝ) * 2 ^ e < (2 ^ format.precision : Nat) * 2 ^ e :=
        mul_lt_mul_of_pos_right (by exact_mod_cast first.fits) (zpow_pos two_pos e)
    _ = (2 ^ (format.precision - 1) : Nat) * 2 ^ (e + 1) := by
        have doubled : 2 ^ format.precision = 2 ^ (format.precision - 1) * 2 :=
          (Nat.two_pow_pred_mul_two precise).symm
        rw [doubled, zpow_add_one₀ two_ne_zero]
        push_cast
        ring
    _ ≤ (2 ^ (format.precision - 1) : Nat) * 2 ^ f :=
        mul_le_mul_of_nonneg_left (zpow_le_zpow_right₀ one_le_two less) (Nat.cast_nonneg _)
    _ ≤ k * 2 ^ f := mul_le_mul_of_nonneg_right (by exact_mod_cast full) (zpow_pos two_pos f).le

theorem Regular.unique {m k : Nat} {e f : Int} (first : format.Regular m e)
    (second : format.Regular k f) (precise : 0 < format.precision)
    (same : (m : ℝ) * 2 ^ e = k * 2 ^ f) : m = k ∧ e = f := by
  rcases lt_trichotomy e f with less | rfl | more
  · exact absurd same (first.mul_lt_mul format second precise less).ne
  · have mantissas := mul_right_cancel₀ (zpow_pos two_pos e).ne' same
    exact ⟨by exact_mod_cast mantissas, rfl⟩
  · exact absurd same (second.mul_lt_mul format first precise more).ne'

/-- A last place to round a number at. -/
structure Place (q : ℝ) (place : Int) : Prop where
  least : format.leastExponent ≤ place
  fits : q < 2 ^ (format.precision + place)
  full : place = format.leastExponent ∨ (2 : ℝ) ^ (format.precision - 1 + place) ≤ q

theorem floor_scaleByTwo_lt_iff {n d : Nat} (denominator : 0 < d) (exponent : Int) :
    (scaleByTwo n d exponent).1 / (scaleByTwo n d exponent).2 < 1 <<< format.precision ↔
      (n : ℝ) / d < 2 ^ (format.precision + exponent) := by
  have scaled := scaleByTwo_snd_pos (n := n) denominator exponent
  have scaledReal : (0 : ℝ) < (scaleByTwo n d exponent).2 := Nat.cast_pos.mpr scaled
  rw [zpow_add₀ two_ne_zero, zpow_natCast, ← div_lt_iff₀ (zpow_pos two_pos _),
    ← scaleByTwo_quotient, div_lt_iff₀ scaledReal, Nat.div_lt_iff_lt_mul scaled,
    Nat.one_shiftLeft]
  exact_mod_cast Iff.rfl

theorem place_lastPlace {n d : Nat} (numerator : 0 < n) (denominator : 0 < d) :
    format.Place ((n : ℝ) / d) (format.lastPlace n d) := by
  obtain ⟨lower, upper⟩ := quotient_between numerator denominator
  unfold lastPlace
  generalize (Nat.log2 n : Int) - Nat.log2 d = size at *
  dsimp only
  split_ifs with fits
  · rw [floor_scaleByTwo_lt_iff format denominator] at fits
    refine ⟨le_max_left _ _, fits, ?_⟩
    rcases max_choice format.leastExponent (size - format.precision) with least | guess
    · exact .inl least
    · rw [guess]
      refine .inr (le_of_eq_of_le ?_ lower.le)
      congr 1
      ring
  · rw [floor_scaleByTwo_lt_iff format denominator, not_lt] at fits
    have guessed := le_max_right format.leastExponent (size - format.precision)
    refine ⟨le_add_of_le_of_nonneg (le_max_left _ _) (by decide), lt_of_lt_of_le upper ?_,
      .inr (le_of_eq_of_le ?_ fits)⟩
    · exact zpow_le_zpow_right₀ one_le_two (by omega)
    · congr 1
      ring

/-- The number `m * 2 ^ e` is preferred to `k * 2 ^ f` in the place of `q`: they are the same number,
or the other lies farther off, or it lies as far and its mantissa is odd while the first is even. -/
inductive Preferred (q : ℝ) (m : Nat) (e : Int) (k : Nat) (f : Int) : Prop where
  | same (equal : (k : ℝ) * 2 ^ f = m * 2 ^ e)
  | nearer (farther : |q - m * 2 ^ e| < |q - k * 2 ^ f|)
  | even (tie : |q - m * 2 ^ e| = |q - k * 2 ^ f|) (even : m % 2 = 0) (odd : k % 2 = 1)

theorem Preferred.le {q : ℝ} {m k : Nat} {e f : Int} (preferred : Preferred q m e k f) :
    |q - m * 2 ^ e| ≤ |q - k * 2 ^ f| := by
  cases preferred with
  | same equal => rw [equal]
  | nearer farther => exact farther.le
  | even tie => exact tie.le

theorem abs_sub_mul_zpow (q m : ℝ) (place : Int) :
    |q - m * 2 ^ place| = |q / 2 ^ place - m| * 2 ^ place := by
  have positive : (0 : ℝ) < 2 ^ place := zpow_pos two_pos place
  calc |q - m * 2 ^ place| = |(q / 2 ^ place - m) * 2 ^ place| := by
        rw [sub_mul, div_mul_cancel₀ q positive.ne']
    _ = |q / 2 ^ place - m| * 2 ^ place := by rw [abs_mul, abs_of_pos positive]

variable {format} {q : ℝ} {place : Int} {whole k : Nat} {f : Int}

theorem preferred_of_le (rounds : RoundsToWhole (q / 2 ^ place) whole) (above : place ≤ f) :
    Preferred q whole place k f := by
  obtain ⟨shift, rfl⟩ := Int.le.dest above
  have multiple : (k : ℝ) * 2 ^ (place + shift : Int) = (k * 2 ^ shift : Nat) * 2 ^ place := by
    rw [zpow_add₀ two_ne_zero, zpow_natCast]
    push_cast
    ring
  by_cases same : k * 2 ^ shift = whole
  · exact .same (by rw [multiple, same])
  · rcases rounds.farther_or_odd same with farther | ⟨tie, even, odd⟩
    · refine .nearer ?_
      rw [multiple, abs_sub_mul_zpow, abs_sub_mul_zpow]
      exact mul_lt_mul_of_pos_right farther (zpow_pos two_pos place)
    · refine .even ?_ even (Nat.odd_iff.mp (Nat.odd_mul.mp (Nat.odd_iff.mpr odd)).1)
      rw [multiple, abs_sub_mul_zpow, abs_sub_mul_zpow, tie]

/-- The numbers with a smaller last place lie below all that fill a mantissa at the chosen one. -/
theorem preferred_of_lt (precise : 0 < format.precision) (chosen : format.Place q place)
    (rounds : RoundsToWhole (q / 2 ^ place) whole) (fits : k < 2 ^ format.precision)
    (least : format.leastExponent ≤ f) (below : f < place) : Preferred q whole place k f := by
  have reached : (2 : ℝ) ^ (format.precision - 1 + place) ≤ q :=
    chosen.full.resolve_left (by omega)
  have fullMultiple : (2 : ℝ) ^ (format.precision - 1 + place) =
      (2 ^ (format.precision - 1) : Nat) * 2 ^ place := by
    rw [zpow_add₀ two_ne_zero, Nat.cast_pow, Nat.cast_ofNat, ← zpow_natCast, Nat.cast_pred precise]
  have under : (k : ℝ) * 2 ^ f < 2 ^ (format.precision - 1 + place) := by
    have fitsReal : (k : ℝ) < 2 ^ (format.precision : Int) := by
      rw [zpow_natCast]
      exact_mod_cast fits
    calc (k : ℝ) * 2 ^ f < 2 ^ (format.precision : Int) * 2 ^ f :=
          mul_lt_mul_of_pos_right fitsReal (zpow_pos two_pos f)
      _ = 2 ^ (format.precision + f) := (zpow_add₀ two_ne_zero _ _).symm
      _ ≤ 2 ^ (format.precision - 1 + place) := zpow_le_zpow_right₀ one_le_two (by omega)
  refine .nearer ?_
  calc |q - whole * 2 ^ place| ≤ |q - (2 ^ (format.precision - 1) : Nat) * 2 ^ place| := by
        rw [abs_sub_mul_zpow, abs_sub_mul_zpow]
        exact mul_le_mul_of_nonneg_right (rounds.le _) (zpow_pos two_pos place).le
    _ = q - 2 ^ (format.precision - 1 + place) := by
        rw [← fullMultiple, abs_of_nonneg (sub_nonneg.mpr reached)]
    _ < q - k * 2 ^ f := by linarith
    _ ≤ |q - k * 2 ^ f| := le_abs_self _

theorem limit_le (place : Int) (great : format.greatestExponent ≤ place)
    (many : (2 : ℝ) ^ format.precision - 1 / 2 ≤ q / 2 ^ place) : format.limit ≤ q := by
  have nonnegative : (0 : ℝ) ≤ 2 ^ format.precision - 1 / 2 := by
    have power : (1 : ℝ) ≤ 2 ^ format.precision := one_le_pow₀ one_le_two
    linarith
  calc format.limit ≤ (2 ^ format.precision - 1 / 2) * 2 ^ place :=
        mul_le_mul_of_nonneg_left (zpow_le_zpow_right₀ one_le_two great) nonnegative
    _ ≤ q := (le_div_iff₀ (zpow_pos two_pos place)).mp many

theorem lt_limit (place : Int) (small : place ≤ format.greatestExponent)
    (few : q / 2 ^ place < (2 : ℝ) ^ format.precision - 1 / 2) : q < format.limit := by
  have nonnegative : (0 : ℝ) ≤ 2 ^ format.precision - 1 / 2 := by
    have power : (1 : ℝ) ≤ 2 ^ format.precision := one_le_pow₀ one_le_two
    linarith
  calc q < (2 ^ format.precision - 1 / 2) * 2 ^ place :=
        (div_lt_iff₀ (zpow_pos two_pos place)).mp few
    _ ≤ format.limit :=
        mul_le_mul_of_nonneg_left (zpow_le_zpow_right₀ one_le_two small) nonnegative

variable (format) in
/-- The number is preferred to all others whose mantissa fits the format and whose exponent is not
below the least one. -/
def Prefers (q : ℝ) (m : Nat) (e : Int) : Prop :=
  ∀ k f, k < 2 ^ format.precision → format.leastExponent ≤ f → Preferred q m e k f

variable (format) in
/-- What a positive number is rounded to. -/
inductive Rounds (q : ℝ) : Value → Prop where
  | overflow (beyond : format.limit ≤ q) : Rounds q (.infinite false)
  | finite {m : Nat} {e : Int} (regular : format.Regular m e) (below : q < format.limit)
      (prefers : format.Prefers q m e) : Rounds q (.finite false m e)

theorem Place.prefers (precise : 0 < format.precision) (chosen : format.Place q place)
    (rounds : RoundsToWhole (q / 2 ^ place) whole) : format.Prefers q whole place := by
  intro k f fits least
  rcases le_or_gt place f with above | below
  · exact preferred_of_le rounds above
  · exact preferred_of_lt precise chosen rounds fits least below

/-- A mantissa that has grown by a bit is even, and so is its half. -/
theorem Preferred.halve (precise : 1 < format.precision)
    (preferred : Preferred q (2 ^ format.precision) place k f) :
    Preferred q (2 ^ (format.precision - 1)) (place + 1) k f := by
  obtain ⟨further, precision⟩ : ∃ further, format.precision = further + 2 :=
    Nat.exists_eq_add_of_le' precise
  have halved : ((2 ^ (format.precision - 1) : Nat) : ℝ) * 2 ^ (place + 1) =
      (2 ^ format.precision : Nat) * 2 ^ place := by
    rw [precision, zpow_add_one₀ two_ne_zero]
    push_cast
    ring
  cases preferred with
  | same equal => exact .same (by rw [halved, equal])
  | nearer farther => exact .nearer (by rw [halved]; exact farther)
  | even tie even odd =>
      refine .even (by rw [halved]; exact tie) ?_ odd
      rw [precision]
      exact Nat.mul_mod_left _ 2

theorem settle_grown (format : Format) (place : Int) :
    format.settle false (2 ^ format.precision) place =
      if format.greatestExponent < place + 1 then .infinite false
      else .finite false (2 ^ (format.precision - 1)) (place + 1) := by
  unfold settle greatestExponent
  simp only [Nat.one_shiftLeft, ↓reduceIte, fullMantissa]
  congr 1
  rw [eq_iff_iff]
  omega

theorem settle_kept (fits : whole < 2 ^ format.precision) (place : Int) :
    format.settle false whole place =
      if format.greatestExponent < place then .infinite false else .finite false whole place := by
  unfold settle greatestExponent
  simp only [Nat.one_shiftLeft, fits.ne, ↓reduceIte]
  congr 1
  rw [eq_iff_iff]
  omega

/-- The number of places fits a mantissa, and it fills one unless the place is the least. -/
theorem Place.count_lt (chosen : format.Place q place) : q / 2 ^ place < 2 ^ format.precision := by
  rw [div_lt_iff₀ (zpow_pos two_pos place), ← zpow_natCast, ← zpow_add₀ two_ne_zero]
  exact chosen.fits

theorem Place.le_count (precise : 0 < format.precision) (chosen : format.Place q place)
    (above : format.leastExponent < place) :
    ((2 ^ (format.precision - 1) : Nat) : ℝ) ≤ q / 2 ^ place := by
  rw [le_div_iff₀ (zpow_pos two_pos place), Nat.cast_pow, Nat.cast_ofNat, ← zpow_natCast,
    Nat.cast_pred precise, ← zpow_add₀ two_ne_zero]
  exact chosen.full.resolve_left above.ne'

/-- What is rounded to a mantissa that fits lies more than half a unit below the least that does
not: the greatest mantissa is odd. -/
theorem count_lt_of_fits (precise : 0 < format.precision) {x : ℝ} (rounds : RoundsToWhole x whole)
    (fits : whole < 2 ^ format.precision) : x < 2 ^ format.precision - 1 / 2 := by
  have fitsReal : (whole : ℝ) + 1 ≤ 2 ^ format.precision := by exact_mod_cast fits
  have near := (abs_le.mp rounds.near).2
  rcases eq_or_lt_of_le near with half | less
  · refine lt_of_le_of_ne (by linarith) fun limit => ?_
    have even := rounds.even (by rw [half, abs_of_nonneg (by norm_num)])
    have greatest : whole + 1 = 2 ^ format.precision := by
      have greatestReal : (whole : ℝ) + 1 = 2 ^ format.precision := by linarith
      exact_mod_cast greatestReal
    have power : 2 ^ format.precision % 2 = 0 :=
      Nat.mod_eq_zero_of_dvd (dvd_pow_self 2 precise.ne')
    omega
  · linarith

theorem rounds_grown (precise : 1 < format.precision) (chosen : format.Place q place)
    (rounds : RoundsToWhole (q / 2 ^ place) (2 ^ format.precision)) :
    format.Rounds q (format.settle false (2 ^ format.precision) place) := by
  have near := (abs_le.mp rounds.near).1
  rw [Nat.cast_pow, Nat.cast_ofNat] at near
  rw [settle_grown]
  split_ifs with great
  · exact .overflow (limit_le place (by omega) (by linarith))
  · have least := chosen.least
    refine .finite ⟨?_, by omega, by omega, .inr (le_refl _)⟩
      (lt_limit (place + 1) (by omega) ?_) ?_
    · exact Nat.pow_lt_pow_right (by decide) (by omega)
    · have few := chosen.count_lt
      have power : (1 : ℝ) ≤ 2 ^ format.precision := one_le_pow₀ one_le_two
      rw [zpow_add_one₀ two_ne_zero, ← div_div]
      linarith
    · exact fun k f fits least => (chosen.prefers (by omega) rounds k f fits least).halve precise

theorem rounds_kept (precise : 0 < format.precision)
    (wide : format.leastExponent ≤ format.greatestExponent) (chosen : format.Place q place)
    (rounds : RoundsToWhole (q / 2 ^ place) whole) (fits : whole < 2 ^ format.precision) :
    format.Rounds q (format.settle false whole place) := by
  have power : (1 : ℝ) ≤ 2 ^ format.precision := one_le_pow₀ one_le_two
  rw [settle_kept fits]
  split_ifs with great
  · have many := chosen.le_count precise (by omega)
    refine .overflow (limit_le (place - 1) (by omega) ?_)
    have halves : q / 2 ^ (place - 1) = q / 2 ^ place * 2 := by
      rw [zpow_sub_one₀ two_ne_zero, div_mul_eq_div_div, div_inv_eq_mul]
    have doubled : (2 : ℝ) ^ format.precision = 2 * (2 ^ (format.precision - 1) : Nat) := by
      rw [Nat.cast_pow, Nat.cast_ofNat, mul_pow_sub_one (by omega)]
    rw [halves, doubled]
    linarith
  · refine .finite ⟨fits, chosen.least, by omega, ?_⟩ (lt_limit place (by omega) ?_) ?_
    · rcases eq_or_lt_of_le chosen.least with least | above
      · exact .inl least.symm
      · exact .inr (rounds.le_of_le (chosen.le_count precise above))
    · exact count_lt_of_fits precise rounds fits
    · exact chosen.prefers precise rounds

theorem rounds_settle (precise : 1 < format.precision)
    (wide : format.leastExponent ≤ format.greatestExponent) (chosen : format.Place q place)
    (rounds : RoundsToWhole (q / 2 ^ place) whole) :
    format.Rounds q (format.settle false whole place) := by
  have upper : q / 2 ^ place < (2 ^ format.precision : Nat) := by
    exact_mod_cast chosen.count_lt
  rcases eq_or_lt_of_le (rounds.le_of_lt upper) with rfl | fits
  · exact rounds_grown precise chosen rounds
  · exact rounds_kept (by omega) wide chosen rounds fits

/-- Rounding a positive quotient gives what the format prefers in its place. -/
theorem rounds_nearest (precise : 1 < format.precision)
    (wide : format.leastExponent ≤ format.greatestExponent) {n d : Nat} (numerator : 0 < n)
    (denominator : 0 < d) : format.Rounds ((n : ℝ) / d) (format.nearest false n d) := by
  have chosen := format.place_lastPlace numerator denominator
  unfold nearest
  rw [if_neg numerator.ne']
  dsimp only
  generalize format.lastPlace n d = place at chosen ⊢
  refine rounds_settle precise wide chosen ?_
  rw [← scaleByTwo_quotient]
  exact roundsToWhole_roundHalfEven (scaleByTwo_snd_pos denominator place)

end Format

end Chronogram.Number
