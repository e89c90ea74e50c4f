import Chronogram.Number.Reading
import Chronogram.Proofs.Number.Double
import Chronogram.Proofs.Text.Numeral

/-!
What a numeral spells.

The grammar of decimal numerals is stated apart from the reader, as relations between a text and
what it spells. The reader accepts exactly the numerals of the grammar, besides the names of the
infinities and of what is no number. A numeral that spells a number above zero is read as the double
that this number is rounded to.
-/

namespace Chronogram.Number

open Text

/-- A sign may stand in front of a text; true is a minus sign. -/
inductive Signed : List Char → Bool → List Char → Prop where
  | bare (text : List Char) : Signed text false text
  | plus (text : List Char) : Signed ('+' :: text) false text
  | minus (text : List Char) : Signed ('-' :: text) true text

/-- The power of ten that may stand behind the digits of a numeral. -/
inductive Power : List Char → Int → Prop where
  | absent : Power [] 0
  | raised {marker : Char} {text digits : List Char} {negative : Bool} {n : Nat}
      (isMarker : marker = 'e' ∨ marker = 'E') (signed : Signed text negative digits)
      (some : digits ≠ []) (denotes : Numeral.Denotes digits n) :
      Power (marker :: text) (if negative then -(n : Int) else n)

/-- Digits around at most one point: their value without the point, and how many stand behind it. -/
inductive Digits : List Char → Nat → Nat → Prop where
  | whole {digits : List Char} {n : Nat} (some : digits ≠ [])
      (denotes : Numeral.Denotes digits n) : Digits digits n 0
  | pointed {whole fraction : List Char} {n : Nat} (some : whole ++ fraction ≠ [])
      (denotes : Numeral.Denotes (whole ++ fraction) n) :
      Digits (whole ++ '.' :: fraction) n fraction.length

/-- A decimal numeral with the sign, the digits and the power of ten that it spells. -/
inductive Numeric : List Char → Bool → Nat → Int → Prop where
  | intro {text digits power : List Char} {negative : Bool} {n places : Nat} {exponent : Int}
      (signed : Signed text negative (digits ++ power)) (counted : Digits digits n places)
      (raised : Power power exponent) : Numeric text negative n (exponent - places)

/-- The number that a text spells in decimal. -/
inductive Spells (text : List Char) : ℝ → Prop where
  | intro {negative : Bool} {n : Nat} {exponent : Int} (numeric : Numeric text negative n exponent) :
      Spells text ((if negative then -(n : ℝ) else n) * 10 ^ exponent)

/-- The text spells a number that is rounded to a double above zero. -/
def SpellsPositive (text : List Char) (x : Float) : Prop :=
  ∃ q, Spells text q ∧ RoundsTo q x ∧ 0 < x

/-! ### The reader -/

/-- A text that does not start with a sign. -/
def Unsigned (text : List Char) : Prop :=
  ∀ rest, text ≠ '+' :: rest ∧ text ≠ '-' :: rest

theorem signed_sign (text : List Char) :
    Signed text (Reading.sign text).1 (Reading.sign text).2 := by
  unfold Reading.sign
  split
  · exact .minus _
  · exact .plus _
  · exact .bare _

theorem sign_of_signed {text rest : List Char} {negative : Bool}
    (signed : Signed text negative rest) (unsigned : Unsigned rest) :
    Reading.sign text = (negative, rest) := by
  cases signed with
  | plus => rfl
  | minus => rfl
  | bare =>
      unfold Reading.sign
      split
      · exact absurd rfl (unsigned _).2
      · exact absurd rfl (unsigned _).1
      · rfl

theorem unsigned_of_digit {c : Char} {rest : List Char} (starts : c.isDigit = true ∨ c = '.') :
    Unsigned (c :: rest) := by
  intro tail
  constructor
  all_goals
    intro same
    rw [(List.cons.inj same).1] at starts
    revert starts
    decide

theorem natural?_eq_some_iff {text : List Char} {n : Nat} :
    Numeral.natural? text = some n ↔ text ≠ [] ∧ Numeral.Denotes text n := by
  by_cases nonempty : text = []
  · simp [nonempty, Numeral.natural?, Numeral.isNumeral]
  · rw [Numeral.natural?_eq_some_iff nonempty]
    exact (and_iff_right nonempty).symm

theorem unsigned_of_denotes {digits : List Char} {n : Nat} (some : digits ≠ [])
    (denotes : Numeral.Denotes digits n) : Unsigned digits := by
  cases digits with
  | nil => exact absurd rfl some
  | cons c rest => exact unsigned_of_digit (.inl (denotes.1 c List.mem_cons_self))

theorem exponent?_eq_some_iff {text : List Char} {exponent : Int} :
    Reading.exponent? text = some exponent ↔ Power text exponent := by
  constructor
  · intro read
    cases text with
    | nil =>
        cases read
        exact .absent
    | cons marker rest =>
        rw [Reading.exponent?] at read
        split_ifs at read with isMarker
        obtain ⟨n, natural, rfl⟩ := Option.map_eq_some_iff.mp read
        obtain ⟨some, denotes⟩ := natural?_eq_some_iff.mp natural
        exact .raised isMarker (signed_sign rest) some denotes
  · intro power
    cases power with
    | absent => rfl
    | raised isMarker signed some denotes =>
        have split := sign_of_signed signed (unsigned_of_denotes some denotes)
        have natural := natural?_eq_some_iff.mpr ⟨some, denotes⟩
        rw [Reading.exponent?, if_pos isMarker, split]
        simp only [natural]
        rfl

/-- What stands behind a row of digits starts with none. -/
def NoDigit (text : List Char) : Prop :=
  ∀ c rest, text = c :: rest → c.isDigit = false

theorem takeWhile_isDigit {digits rest : List Char} (row : ∀ c ∈ digits, c.isDigit = true)
    (stops : NoDigit rest) : (digits ++ rest).takeWhile Char.isDigit = digits := by
  rw [List.takeWhile_append_of_pos row]
  cases rest with
  | nil => rw [List.takeWhile_nil, List.append_nil]
  | cons c tail =>
      rw [List.takeWhile_cons_of_neg (by rw [stops c tail rfl]; exact Bool.false_ne_true),
        List.append_nil]

theorem dropWhile_isDigit {digits rest : List Char} (row : ∀ c ∈ digits, c.isDigit = true)
    (stops : NoDigit rest) : (digits ++ rest).dropWhile Char.isDigit = rest := by
  rw [List.dropWhile_append_of_pos row]
  cases rest with
  | nil => rfl
  | cons c tail =>
      rw [List.dropWhile_cons_of_neg (by rw [stops c tail rfl]; exact Bool.false_ne_true)]

/-- What stands behind the digits starts neither with a digit nor with a point. -/
theorem Power.start {text : List Char} {exponent : Int} (power : Power text exponent) :
    NoDigit text ∧ ∀ rest, text ≠ '.' :: rest := by
  cases power with
  | absent => exact ⟨fun _ _ same => absurd same.symm (List.cons_ne_nil _ _),
      fun _ same => absurd same.symm (List.cons_ne_nil _ _)⟩
  | raised isMarker =>
      constructor
      · intro c rest same
        rw [← (List.cons.inj same).1]
        rcases isMarker with rfl | rfl <;> decide
      · intro rest same
        rw [(List.cons.inj same).1] at isMarker
        revert isMarker
        decide

theorem noDigit_point (text : List Char) : NoDigit ('.' :: text) := by
  intro c rest same
  rw [← (List.cons.inj same).1]
  decide

theorem compose?_eq_some_iff {whole fraction rest : List Char} {negative : Bool}
    {reading : Reading} (row : ∀ c ∈ whole ++ fraction, c.isDigit = true) :
    Reading.compose? negative whole fraction rest = some reading ↔
      whole ++ fraction ≠ [] ∧ ∃ n exponent, Numeral.Denotes (whole ++ fraction) n ∧
        Power rest exponent ∧ reading = .decimal negative n (exponent - fraction.length) := by
  by_cases empty : whole ++ fraction = []
  · obtain ⟨rfl, rfl⟩ := List.append_eq_nil_iff.mp empty
    simp [Reading.compose?]
  · have nonempty : ¬(whole.isEmpty && fraction.isEmpty) = true := by
      simpa [List.isEmpty_iff] using empty
    rw [Reading.compose?, if_neg nonempty, Option.map_eq_some_iff, Numeral.valueFrom_eq,
      and_iff_right empty]
    constructor
    · rintro ⟨exponent, read, rfl⟩
      exact ⟨_, exponent, ⟨row, rfl⟩, exponent?_eq_some_iff.mp read, rfl⟩
    · rintro ⟨n, exponent, denotes, power, rfl⟩
      exact ⟨exponent, exponent?_eq_some_iff.mpr power, by rw [denotes.2]⟩

theorem splitFraction_of_ne_point {text : List Char} (other : ∀ rest, text ≠ '.' :: rest) :
    Reading.splitFraction text = ([], text) := by
  unfold Reading.splitFraction
  split
  next behind => exact absurd rfl (other behind)
  next => rfl

theorem digits_of_digits? {text : List Char} {negative : Bool} {reading : Reading}
    (read : Reading.digits? negative text = some reading) :
    ∃ digits power n places exponent, text = digits ++ power ∧ Digits digits n places ∧
      Power power exponent ∧ reading = .decimal negative n (exponent - places) := by
  have parts := List.takeWhile_append_dropWhile (p := Char.isDigit) (l := text)
  have row : ∀ c ∈ text.takeWhile Char.isDigit, c.isDigit = true :=
    fun c membership => List.mem_takeWhile_imp membership
  unfold Reading.digits? at read
  generalize text.takeWhile Char.isDigit = whole at *
  generalize text.dropWhile Char.isDigit = afterWhole at *
  subst parts
  by_cases point : ∃ behind, afterWhole = '.' :: behind
  · obtain ⟨behind, rfl⟩ := point
    have behindParts := List.takeWhile_append_dropWhile (p := Char.isDigit) (l := behind)
    have behindRow : ∀ c ∈ behind.takeWhile Char.isDigit, c.isDigit = true :=
      fun c membership => List.mem_takeWhile_imp membership
    simp only [Reading.splitFraction] at read
    generalize behind.takeWhile Char.isDigit = fraction at *
    generalize behind.dropWhile Char.isDigit = power at *
    subst behindParts
    have allDigits := List.forall_mem_append.mpr ⟨row, behindRow⟩
    obtain ⟨some, n, exponent, denotes, raised, rfl⟩ := (compose?_eq_some_iff allDigits).mp read
    have together : whole ++ '.' :: (fraction ++ power) = (whole ++ '.' :: fraction) ++ power := by
      rw [List.append_assoc, List.cons_append]
    exact ⟨_, power, n, _, exponent, together, .pointed some denotes, raised, rfl⟩
  · rw [splitFraction_of_ne_point fun rest same => point ⟨rest, same⟩] at read
    have allDigits : ∀ c ∈ whole ++ [], c.isDigit = true := by rwa [List.append_nil]
    obtain ⟨some, n, exponent, denotes, raised, rfl⟩ := (compose?_eq_some_iff allDigits).mp read
    rw [List.append_nil] at some denotes
    exact ⟨whole, afterWhole, n, 0, exponent, rfl, .whole some denotes, raised, rfl⟩

theorem digits?_of_digits {digits power : List Char} {n places : Nat} {exponent : Int}
    (negative : Bool) (counted : Digits digits n places) (raised : Power power exponent) :
    Reading.digits? negative (digits ++ power) =
      some (.decimal negative n (exponent - places)) := by
  obtain ⟨noDigit, noPoint⟩ := raised.start
  unfold Reading.digits?
  cases counted with
  | whole some denotes =>
      rw [takeWhile_isDigit denotes.1 noDigit, dropWhile_isDigit denotes.1 noDigit,
        splitFraction_of_ne_point noPoint]
      rw [← List.append_nil digits] at some denotes
      exact (compose?_eq_some_iff denotes.1).mpr ⟨some, n, exponent, denotes, raised, rfl⟩
  | @pointed whole fraction _ some denotes =>
      obtain ⟨wholeRow, fractionRow⟩ := List.forall_mem_append.mp denotes.1
      rw [List.append_assoc, List.cons_append, takeWhile_isDigit wholeRow (noDigit_point _),
        dropWhile_isDigit wholeRow (noDigit_point _)]
      simp only [Reading.splitFraction, takeWhile_isDigit fractionRow noDigit,
        dropWhile_isDigit fractionRow noDigit]
      exact (compose?_eq_some_iff denotes.1).mpr ⟨some, n, exponent, denotes, raised, rfl⟩

theorem Digits.start {text : List Char} {n places : Nat} (counted : Digits text n places) :
    ∃ c rest, text = c :: rest ∧ (c.isDigit = true ∨ c = '.') := by
  cases counted with
  | whole some denotes =>
      obtain ⟨c, rest, rfl⟩ := List.exists_cons_of_ne_nil some
      exact ⟨c, rest, rfl, .inl (denotes.1 c List.mem_cons_self)⟩
  | @pointed whole fraction _ some denotes =>
      cases whole with
      | nil => exact ⟨'.', fraction, rfl, .inr rfl⟩
      | cons c rest =>
          exact ⟨c, rest ++ '.' :: fraction, rfl, .inl (denotes.1 c List.mem_cons_self)⟩

theorem isAlpha_of_start {c : Char} (starts : c.isDigit = true ∨ c = '.') : c.isAlpha = false := by
  rcases starts with digit | rfl
  · simp only [Char.isDigit, Bool.and_eq_true, decide_eq_true_eq] at digit
    have upper : c.toNat ≤ 57 := digit.2
    have notUpper : ¬(65 ≤ c.toNat ∧ c.toNat ≤ 90) := by omega
    have notLower : ¬(97 ≤ c.toNat ∧ c.toNat ≤ 122) := by omega
    have neither : ¬c.isAlpha = true := by
      simp only [Char.isAlpha, Char.isUpper, Char.isLower, Bool.or_eq_true, Bool.and_eq_true,
        decide_eq_true_eq]
      exact not_or_intro notUpper notLower
    exact Bool.eq_false_iff.mpr neither
  · decide

theorem asciiLower_ne_of_start {c letter : Char} {rest tail : List Char}
    (starts : c.isDigit = true ∨ c = '.') (isLetter : letter.isAlpha = true) :
    asciiLower (c :: rest) ≠ letter :: tail := by
  intro same
  have lowered : c.toLower = letter := (List.cons.inj same).1
  rw [← lowered, Char.isAlpha_toLower_eq_isAlpha, isAlpha_of_start starts] at isLetter
  exact Bool.noConfusion isLetter

/-- The reader takes the numerals of the grammar for decimal numbers, and nothing else. -/
theorem read?_eq_decimal_iff {text : List Char} {negative : Bool} {n : Nat} {exponent : Int} :
    Reading.read? text = some (.decimal negative n exponent) ↔
      Numeric text negative n exponent := by
  constructor
  · intro read
    have signed := signed_sign text
    unfold Reading.read? at read
    generalize Reading.sign text = split at read signed
    obtain ⟨sign, unsigned⟩ := split
    dsimp only at read signed
    split_ifs at read with infinity nan
    · exact Reading.noConfusion (Option.some.inj read)
    · exact Reading.noConfusion (Option.some.inj read)
    · obtain ⟨digits, power, m, places, raised, rfl, counted, isPower, reading⟩ :=
        digits_of_digits? read
      obtain ⟨rfl, rfl, rfl⟩ := Reading.decimal.inj reading
      exact .intro signed counted isPower
  · rintro ⟨signed, counted, raised⟩
    have read := digits?_of_digits negative counted raised
    obtain ⟨c, rest, rfl, starts⟩ := counted.start
    have split := sign_of_signed signed (unsigned_of_digit starts)
    unfold Reading.read?
    rw [split]
    dsimp only
    rw [if_neg, if_neg]
    · exact read
    · exact asciiLower_ne_of_start starts (by decide)
    · exact not_or_intro (asciiLower_ne_of_start starts (by decide))
        (asciiLower_ne_of_start starts (by decide))

/-! ### Rounding what is read -/

theorem lt_ten_pow_length (n : Nat) : n < 10 ^ (Nat.toDigits 10 n).length :=
  (Nat.length_toDigits_le_iff (by decide) Nat.length_toDigits_pos).mp (le_refl _)

theorem ten_pow_length_le {n : Nat} (positive : 0 < n) :
    10 ^ ((Nat.toDigits 10 n).length - 1) ≤ n := by
  by_contra less
  by_cases one : (Nat.toDigits 10 n).length - 1 = 0
  · rw [one, pow_zero] at less
    exact less positive
  · have shorter := (Nat.length_toDigits_le_iff (by decide) (Nat.pos_of_ne_zero one)).mpr
      (not_le.mp less)
    omega

/-- A number is at least the power of ten below its magnitude, and less than that of its
magnitude. -/
theorem magnitude_bounds {n : Nat} (positive : 0 < n) (exponent : Int) :
    (10 : ℝ) ^ (exponent + (Nat.toDigits 10 n).length - 1) ≤ n * 10 ^ exponent ∧
      (n : ℝ) * 10 ^ exponent < 10 ^ (exponent + (Nat.toDigits 10 n).length) := by
  have power : (0 : ℝ) < 10 ^ exponent := zpow_pos (by norm_num) exponent
  have lower := ten_pow_length_le positive
  have upper := lt_ten_pow_length n
  have nonempty : 0 < (Nat.toDigits 10 n).length := Nat.length_toDigits_pos
  generalize (Nat.toDigits 10 n).length = length at *
  constructor
  · have lowerReal : (10 : ℝ) ^ (length - 1) ≤ n := by exact_mod_cast lower
    rw [add_sub_assoc, zpow_add₀ (by norm_num), mul_comm, ← Nat.cast_pred nonempty, zpow_natCast]
    exact mul_le_mul_of_nonneg_right lowerReal power.le
  · have upperReal : (n : ℝ) < 10 ^ length := by exact_mod_cast upper
    rw [zpow_add₀ (by norm_num), mul_comm, zpow_natCast]
    exact mul_lt_mul_of_pos_left upperReal power

theorem two_pow_le_ten_pow (k : Nat) : (2 : ℝ) ^ (3 * k) ≤ 10 ^ k := by
  rw [pow_mul]
  exact pow_le_pow_left₀ (by norm_num) (by norm_num) k

theorem rounds_zero {q : ℝ} (positive : 0 < q) (small : q < 2 ^ (-1075 : Int)) :
    Format.double.Rounds q (.finite false 0 Format.double.leastExponent) := by
  have halves : (2 : ℝ) ^ (-1074 : Int) = 2 ^ (-1075 : Int) * 2 := by
    rw [← zpow_add_one₀ two_ne_zero]
    congr 1
  have belowOne : (2 : ℝ) ^ (-1075 : Int) ≤ 1 := zpow_le_one_of_nonpos₀ one_le_two (by norm_num)
  refine .finite ⟨Nat.two_pow_pos _, le_refl _, by decide, .inl rfl⟩ ?_ fun k f _ least => ?_
  · have limit : (1 : ℝ) ≤ 2 ^ 970 := one_le_pow₀ one_le_two
    have next : (2 : ℝ) ^ 970 * 2 ≤ 2 ^ 1024 := by
      rw [← pow_succ]
      exact pow_le_pow_right₀ one_le_two (by norm_num)
    rw [limit_double]
    generalize (2 : ℝ) ^ 970 = half at *
    generalize (2 : ℝ) ^ 1024 = power at *
    linarith
  · rcases Nat.eq_zero_or_pos k with rfl | some
    · exact .same (by rw [Nat.cast_zero, zero_mul, zero_mul])
    · have unit : (2 : ℝ) ^ (-1074 : Int) ≤ k * 2 ^ f := by
        have one : (1 : ℝ) ≤ k := by exact_mod_cast some
        have place : (2 : ℝ) ^ (-1074 : Int) ≤ 2 ^ f := zpow_le_zpow_right₀ one_le_two least
        calc (2 : ℝ) ^ (-1074 : Int) ≤ 2 ^ f := place
          _ = 1 * 2 ^ f := (one_mul _).symm
          _ ≤ k * 2 ^ f := mul_le_mul_of_nonneg_right one (zpow_pos two_pos f).le
      refine .nearer ?_
      rw [Nat.cast_zero, zero_mul, sub_zero, abs_of_pos positive, abs_sub_comm,
        abs_of_pos (by linarith)]
      linarith

/-- A numeral above zero is rounded to a value that the format prefers in its place. -/
theorem rounds_round {n : Nat} (positive : 0 < n) (exponent : Int) :
    Format.double.Rounds (n * 10 ^ exponent)
      (Reading.round Format.double (.decimal false n exponent)) := by
  have aboveZero : (0 : ℝ) < n * 10 ^ exponent :=
    mul_pos (Nat.cast_pos.mpr positive) (zpow_pos (by norm_num) exponent)
  obtain ⟨lower, upper⟩ := magnitude_bounds positive exponent
  unfold Reading.round
  dsimp only
  generalize exponent + ((Nat.toDigits 10 n).length : Int) = magnitude at *
  split_ifs with small great
  · have below : magnitude ≤ -((400 : Nat) : Int) := by
      have small := small.resolve_left positive.ne'
      omega
    refine rounds_zero aboveZero (lt_of_lt_of_le upper ?_)
    calc (10 : ℝ) ^ magnitude ≤ 10 ^ (-((400 : Nat) : Int)) :=
          zpow_le_zpow_right₀ (by norm_num) below
      _ = (10 ^ 400)⁻¹ := by rw [zpow_neg, zpow_natCast]
      _ ≤ (2 ^ (3 * 400))⁻¹ := inv_anti₀ (pow_pos two_pos _) (two_pow_le_ten_pow 400)
      _ = 2 ^ (-((3 * 400 : Nat) : Int)) := by rw [zpow_neg, zpow_natCast]
      _ ≤ 2 ^ (-1075 : Int) := zpow_le_zpow_right₀ one_le_two (by norm_num)
  · refine .overflow (le_trans ?_ lower)
    have above : ((400 : Nat) : Int) ≤ magnitude - 1 := by omega
    calc Format.double.limit ≤ 2 ^ 1024 := by
          rw [limit_double]
          exact sub_le_self _ (pow_pos two_pos 970).le
      _ ≤ 2 ^ (3 * 400) := pow_le_pow_right₀ one_le_two (by norm_num)
      _ ≤ 10 ^ 400 := two_pow_le_ten_pow 400
      _ = 10 ^ ((400 : Nat) : Int) := (zpow_natCast _ _).symm
      _ ≤ 10 ^ (magnitude - 1) := zpow_le_zpow_right₀ (by norm_num) above
  · have quotient : (n : ℝ) * 10 ^ exponent =
        (n * Nat.pow 10 exponent.toNat : Nat) / (Nat.pow 10 (-exponent).toNat : Nat) := by
      obtain ⟨k, rfl | rfl⟩ := Int.eq_nat_or_neg exponent
      · simp
      · simp [div_eq_mul_inv]
    rw [quotient]
    exact Format.rounds_nearest (by decide) (by decide)
      (Nat.mul_pos positive (Nat.pow_pos (by decide))) (Nat.pow_pos (by decide))

theorem not_isPositive_nearest (format : Format) (n d : Nat) :
    (format.nearest true n d).isPositive = false := by
  unfold Format.nearest Format.settle
  dsimp only
  split_ifs <;> rfl

/-- Only a numeral above zero is read as a value above zero. -/
theorem positive_of_isPositive_round {format : Format} {reading : Reading}
    (above : (Reading.round format reading).isPositive = true) :
    ∃ n exponent, reading = .decimal false n exponent ∧ 0 < n := by
  cases reading with
  | nan => exact Bool.noConfusion above
  | infinite negative => exact Bool.noConfusion above
  | decimal negative n exponent =>
      unfold Reading.round at above
      dsimp only at above
      split_ifs at above with small great
      · cases negative <;> exact Bool.noConfusion above
      · exact Bool.noConfusion above
      · cases negative with
        | true => exact absurd above (by rw [not_isPositive_nearest]; exact Bool.false_ne_true)
        | false => exact ⟨n, exponent, rfl, Nat.pos_of_ne_zero fun zero => small (.inl zero)⟩

/-- What is rounded to a double above zero lies above zero. -/
theorem pos_of_roundsTo {q : ℝ} {x : Float} (rounds : RoundsTo q x) (above : 0 < x) : 0 < q := by
  have value : 0 < (Value.ofFloat x).toReal :=
    Value.toReal_pos_iff.mpr (Value.isPositive_ofFloat.mpr ⟨rounds.finite, above⟩)
  by_contra nonpositive
  have zero : (Value.ofFloat 0).toReal = 0 := by
    rw [Value.ofFloat_eq, Value.unpack_zero, Value.ofUnpacked, Value.toReal, Nat.cast_zero]
    exact zero_mul _
  have nearest := rounds.nearest 0 (by decide +kernel)
  rw [zero, sub_zero, abs_of_nonpos (not_lt.mp nonpositive), abs_of_neg (by linarith)] at nearest
  linarith

/-- The values above zero that are read are the doubles above zero that a numeral is rounded to. -/
theorem read?_positive_iff {text : List Char} {x : Float} :
    ((read? Format.double text).filter Value.isPositive).map Value.toFloat = some x ↔
      SpellsPositive text x := by
  simp only [read?, Option.map_eq_some_iff, Option.filter_eq_some_iff]
  constructor
  · rintro ⟨value, ⟨⟨reading, read, rfl⟩, above⟩, made⟩
    obtain ⟨n, exponent, rfl, positive⟩ := positive_of_isPositive_round above
    have aboveZero : (0 : ℝ) < n * 10 ^ exponent :=
      mul_pos (Nat.cast_pos.mpr positive) (zpow_pos (by norm_num) exponent)
    have spelled := Spells.intro (read?_eq_decimal_iff.mp read)
    exact ⟨_, spelled, (roundsTo_iff aboveZero (rounds_round positive exponent)).mpr ⟨above, made⟩⟩
  · rintro ⟨q, spelled, rounds, above⟩
    have aboveZero := pos_of_roundsTo rounds above
    cases spelled with
    | @intro negative n exponent numeric =>
        have power : (0 : ℝ) < 10 ^ exponent := zpow_pos (by norm_num) exponent
        have mantissa := (mul_pos_iff_of_pos_right power).mp aboveZero
        cases negative with
        | true =>
            rw [if_pos rfl] at mantissa
            exact absurd mantissa (not_lt.mpr (neg_nonpos.mpr (Nat.cast_nonneg n)))
        | false =>
            have positive : 0 < n := Nat.cast_pos.mp mantissa
            have preferred := rounds_round positive exponent
            obtain ⟨aboveValue, made⟩ := (roundsTo_iff aboveZero preferred).mp ⟨rounds, above⟩
            exact ⟨_, ⟨⟨_, read?_eq_decimal_iff.mpr numeric, rfl⟩, aboveValue⟩, made⟩

end Chronogram.Number
