import Chronogram.Proofs.Number.Plain
import Chronogram.Proofs.Svg.Scale

/-!
Numbers in SVG documents are plain decimals.

A finite double is written as the whole number next to it, if it is near enough to one, and by its
shortest decimal otherwise. Either way the text is a plain decimal, and a minus sign only stands in
front of numbers below zero. Neither blanks nor commas occur in such texts, so a list of points can
be split back into its coordinates.
-/

namespace Chronogram

namespace Svg

open Number Text

/-! ### The nearest whole number -/

theorem wholeBelow_eq : wholeBelow = .finite false 4722366482869645 (-72) := by
  decide +kernel

theorem zeroBelow_eq : zeroBelow = .finite false 4835703278458517 (-82) := by
  decide +kernel

theorem wholeBelow_lt : wholeBelow.toReal < 1 / 2 := by
  rw [wholeBelow_eq, Value.toReal]
  norm_num

theorem zeroBelow_pos : 0 < zeroBelow.toReal := by
  rw [zeroBelow_eq, Value.toReal]
  norm_num

theorem zeroBelow_lt : zeroBelow.toReal < wholeBelow.toReal := by
  rw [wholeBelow_eq, zeroBelow_eq, Value.toReal, Value.toReal]
  norm_num

theorem zpow_sub_toNat {e least : Int} (below : least ≤ e) :
    (2 : ℝ) ^ e = (2 ^ (e - least).toNat : Nat) * 2 ^ least := by
  push_cast
  rw [← zpow_natCast, ← zpow_add₀ two_ne_zero]
  congr 1
  omega

theorem lessThan_iff_lt (m : Nat) (e : Int) (n : Nat) (f : Int) :
    lessThan m e n f = true ↔ (m : ℝ) * 2 ^ e < n * 2 ^ f := by
  have least : (0 : ℝ) < 2 ^ min e f := zpow_pos two_pos _
  rw [lessThan_iff, Nat.shiftLeft_eq, Nat.shiftLeft_eq, zpow_sub_toNat (Int.min_le_left e f),
    zpow_sub_toNat (Int.min_le_right e f), ← mul_assoc, ← mul_assoc,
    mul_lt_mul_iff_of_pos_right least]
  exact_mod_cast Iff.rfl

/-- A magnitude is compared with a bound as it should be. -/
theorem isBelow_iff {bound : Value} {n : Nat} {f : Int} (value : bound = .finite false n f)
    (m : Nat) (e : Int) : isBelow m e bound = true ↔ (m : ℝ) * 2 ^ e < bound.toReal := by
  rw [value]
  exact lessThan_iff_lt m e n f

theorem cast_distance (a b : Nat) : ((a - b + (b - a) : Nat) : ℝ) = |(a : ℝ) - b| := by
  rcases le_total a b with below | above
  · rw [Nat.sub_eq_zero_of_le below, Nat.zero_add, Nat.cast_sub below, abs_sub_comm,
      abs_of_nonneg (sub_nonneg.mpr (Nat.cast_le.mpr below))]
  · rw [Nat.sub_eq_zero_of_le above, Nat.add_zero, Nat.cast_sub above,
      abs_of_nonneg (sub_nonneg.mpr (Nat.cast_le.mpr above))]

/-- The nearest whole number lies half a unit away at most, and its distance is exact. -/
theorem nearestWhole_near (m places : Nat) :
    ((nearestWhole m places).2 : ℝ) * 2 ^ (-(places : Int)) =
        |(m : ℝ) * 2 ^ (-(places : Int)) - (nearestWhole m places).1| ∧
      |(m : ℝ) * 2 ^ (-(places : Int)) - (nearestWhole m places).1| ≤ 1 / 2 := by
  have part : (0 : ℝ) < 2 ^ (-(places : Int)) := zpow_pos two_pos _
  have parts : ((2 ^ places : Nat) : ℝ) * 2 ^ (-(places : Int)) = 1 := by
    push_cast
    rw [← zpow_natCast, ← zpow_add₀ two_ne_zero, add_neg_cancel, zpow_zero]
  have positive : 0 < 2 ^ places := Nat.two_pow_pos places
  unfold nearestWhole
  dsimp only
  rw [Nat.one_shiftLeft]
  generalize (2 ^ places : Nat) = unit at *
  generalize (2 : ℝ) ^ (-(places : Int)) = small at *
  have lower : (2 * m + unit) / (2 * unit) * (2 * unit) ≤ 2 * m + unit := Nat.div_mul_le_self _ _
  have upper : 2 * m + unit < ((2 * m + unit) / (2 * unit) + 1) * (2 * unit) :=
    (Nat.div_lt_iff_lt_mul (by omega)).mp (Nat.lt_succ_self _)
  generalize (2 * m + unit) / (2 * unit) = whole at *
  have distance : |m * small - whole| = |(m : ℝ) - (whole * unit : Nat)| * small := by
    rw [← abs_of_pos part, ← abs_mul, abs_of_pos part, Nat.cast_mul, sub_mul, mul_assoc _ _ small,
      parts, mul_one]
  refine ⟨by rw [cast_distance, distance], ?_⟩
  have near : |(m : ℝ) - (whole * unit : Nat)| ≤ unit / 2 := by
    have lowerReal : (whole : ℝ) * (2 * unit) ≤ 2 * m + unit := by exact_mod_cast lower
    have upperReal : (2 * m + unit : ℝ) < (whole + 1) * (2 * unit) := by exact_mod_cast upper
    push_cast
    rw [abs_le]
    constructor <;> linarith
  calc |(m : ℝ) * small - whole| = |(m : ℝ) - (whole * unit : Nat)| * small := distance
    _ ≤ unit / 2 * small := mul_le_mul_of_nonneg_right near part.le
    _ = 1 / 2 := by rw [div_mul_eq_mul_div, parts]

/-- Two whole numbers are the same if one lies less than half a unit from a number, and the other
half a unit at most. -/
theorem eq_of_near {a b : Int} {v : ℝ} (first : |v - a| < 1 / 2) (second : |v - b| ≤ 1 / 2) :
    a = b := by
  have apart : |a - b| < 1 := by
    have apartReal : |(a : ℝ) - b| < 1 := by
      have detour := abs_sub_le (a : ℝ) v b
      rw [abs_sub_comm (a : ℝ) v] at detour
      linarith
    exact_mod_cast apartReal
  exact sub_eq_zero.mp (Int.abs_lt_one_iff.mp apart)

/-! ### How a finite double is written -/

def signFactor (negative : Bool) : Int :=
  if negative then -1 else 1

theorem signedWhole_eq (negative : Bool) (whole : Nat) :
    signedWhole negative whole = Numeral.ofInt (signFactor negative * whole) := by
  cases negative with
  | false =>
      have same : signFactor false * (whole : Int) = whole := one_mul _
      rw [same]
      exact if_neg (by simp)
  | true =>
      cases whole with
      | zero => rfl
      | succ n =>
          have same : signFactor true * ((n + 1 : Nat) : Int) = .negSucc n := neg_one_mul _
          rw [same]
          exact if_pos ⟨rfl, n.succ_ne_zero⟩

/-- A finite number is written as a whole number next to it, or by its digits, and then there is no
whole number next to it, except perhaps itself. -/
theorem finiteText_cases (negative : Bool) (m : Nat) (e : Int) :
    (∃ whole : Nat, finiteText negative m e = signedWhole negative whole ∧
        |(m : ℝ) * 2 ^ e - whole| < wholeBelow.toReal) ∨
      (finiteText negative m e = (if negative then ['-'] else []) ++ Style.display.magnitude m e ∧
        ∀ whole : Int, |(m : ℝ) * 2 ^ e - whole| < wholeBelow.toReal →
          (m : ℝ) * 2 ^ e = whole) := by
  have small := wholeBelow_lt
  unfold finiteText
  cases e with
  | ofNat k =>
      refine .inr ⟨rfl, fun whole near => ?_⟩
      have exact : (m : ℝ) * 2 ^ Int.ofNat k = ((m * 2 ^ k : Nat) : Int) := by
        push_cast
        rfl
      rw [exact] at near ⊢
      have same := eq_of_near (near.trans small) (b := (m * 2 ^ k : Nat)) (by norm_num)
      rw [same]
  | negSucc n =>
      obtain ⟨distance, half⟩ := nearestWhole_near m (n + 1)
      have exponent : -((n + 1 : Nat) : Int) = .negSucc n := rfl
      rw [exponent] at distance half
      dsimp only
      generalize nearestWhole m (n + 1) = nearest at distance half ⊢
      obtain ⟨whole, steps⟩ := nearest
      dsimp only at *
      by_cases trims : steps ≠ 0 ∧ isBelow steps (.negSucc n) wholeBelow = true
      · rw [if_pos trims]
        refine .inl ⟨whole, rfl, ?_⟩
        rw [← distance]
        exact (isBelow_iff wholeBelow_eq _ _).mp trims.2
      · rw [if_neg trims]
        refine .inr ⟨rfl, fun other near => ?_⟩
        have same : other = (whole : Int) := eq_of_near (near.trans small) half
        subst same
        rw [Int.cast_natCast] at near ⊢
        by_cases exact : steps = 0
        · rw [exact, Nat.cast_zero, zero_mul] at distance
          exact sub_eq_zero.mp (abs_eq_zero.mp distance.symm)
        · rw [← distance, ← isBelow_iff wholeBelow_eq] at near
          exact absurd ⟨exact, near⟩ trims

/-- A double lies less than the double `1e-6` away from a whole number. -/
def NearWhole (x : Float) (whole : Int) : Prop :=
  |(Value.ofFloat x).toReal - whole| < (Value.ofFloat 1e-6).toReal

/-- How a finite double is written: as a whole number next to it, or by its shortest decimal if
there is none besides, perhaps, itself. -/
inductive Written (x : Float) : List Char → Prop where
  | trimmed {whole : Int} (near : NearWhole x whole) : Written x (Numeral.ofInt whole)
  | kept {negative : Bool} {m : Nat} {e : Int} (some : 0 < m)
      (value : Value.ofFloat x = .finite negative m e)
      (alone : ∀ whole, NearWhole x whole → (Value.ofFloat x).toReal = whole) :
      Written x ((if negative then ['-'] else []) ++ (Decimal.shortest .up m e).plain)

theorem toReal_finite (negative : Bool) (m : Nat) (e : Int) :
    (Value.finite negative m e).toReal = signFactor negative * ((m : ℝ) * 2 ^ e) := by
  cases negative <;> simp [Value.toReal, signFactor]

theorem signFactor_mul_self (negative : Bool) : signFactor negative * signFactor negative = 1 := by
  cases negative <;> rfl

theorem abs_signFactor (negative : Bool) : |(signFactor negative : ℝ)| = 1 := by
  cases negative <;> simp [signFactor]

theorem abs_signFactor_mul_sub (negative : Bool) (a b : ℝ) :
    |signFactor negative * a - b| = |a - signFactor negative * b| := by
  cases negative with
  | false => simp [signFactor]
  | true =>
      rw [← abs_neg]
      simp [signFactor, add_comm]

theorem nearWhole_iff {x : Float} {negative : Bool} {m : Nat} {e : Int}
    (value : Value.ofFloat x = .finite negative m e) (whole : Int) :
    NearWhole x whole ↔
      |(m : ℝ) * 2 ^ e - (signFactor negative * whole : Int)| < wholeBelow.toReal := by
  rw [NearWhole, value, toReal_finite, abs_signFactor_mul_sub, Int.cast_mul]
  exact Iff.rfl

theorem magnitude_display {m : Nat} (some : 0 < m) (e : Int) :
    Style.display.magnitude m e = (Decimal.shortest .up m e).plain := by
  simp [Style.magnitude, Style.display, some.ne']

theorem written_numberText {x : Float} (finite : x.isFinite = true) : Written x (numberText x) := by
  obtain ⟨negative, m, e, value⟩ := Value.isFinite_iff.mp finite
  have size : (0 : ℝ) ≤ m * 2 ^ e := by positivity
  unfold numberText
  rw [value]
  dsimp only
  split_ifs with zero
  · rw [isBelow_iff zeroBelow_eq] at zero
    have near : NearWhole x 0 := by
      rw [nearWhole_iff value, mul_zero, Int.cast_zero, sub_zero, abs_of_nonneg size]
      exact zero.trans zeroBelow_lt
    exact .trimmed near
  · rcases finiteText_cases negative m e with ⟨whole, written, near⟩ | ⟨written, alone⟩
    · rw [written, signedWhole_eq]
      refine .trimmed ((nearWhole_iff value _).mpr ?_)
      rw [← mul_assoc, signFactor_mul_self, one_mul]
      exact near
    · have some : 0 < m := by
        refine Nat.pos_of_ne_zero fun nothing => zero ?_
        rw [isBelow_iff zeroBelow_eq, nothing, Nat.cast_zero, zero_mul]
        exact zeroBelow_pos
      rw [written, magnitude_display some]
      refine .kept some value fun whole near => ?_
      have exact := alone _ ((nearWhole_iff value whole).mp near)
      rw [value, toReal_finite, exact, ← Int.cast_mul, ← mul_assoc, signFactor_mul_self, one_mul]

/-! ### What the text says -/

namespace Written

variable {x : Float} {text : List Char}

/-- What is written is a plain decimal, with a minus sign only in front of what lies below zero. -/
theorem plainDecimal (written : Written x text) :
    ∃ negative n places, PlainDecimal text negative n places ∧ (negative = true → 0 < n) := by
  cases written with
  | @trimmed whole near =>
      refine ⟨_, _, 0, plainDecimal_ofInt whole, fun below => ?_⟩
      exact Int.natAbs_pos.mpr (of_decide_eq_true below).ne
  | @kept negative m e some value alone =>
      have fits := (Format.regular_decode value).fits
      obtain ⟨n, places, magnitude, positive, -⟩ :=
        Decimal.exists_plainMagnitude (Decimal.digits_shortest_pos fits some .up e)
      exact ⟨negative, n, places, plainDecimal_signed magnitude negative, fun _ => positive⟩

/-- Next to a whole number, a whole number is written: this one, or one that is rounded to the same
double, where not every whole number is a double. -/
theorem whole (written : Written x text) {n : Int} (near : NearWhole x n) :
    ∃ whole : Int, text = Numeral.ofInt whole ∧
      (whole = n ∨ 2 ^ 53 ≤ n.natAbs ∧ RoundsTo whole x) := by
  cases written with
  | @trimmed whole near' =>
      have same := eq_of_near (near'.trans wholeBelow_lt) (near.trans wholeBelow_lt).le
      exact ⟨whole, rfl, .inl same⟩
  | @kept negative m e some value alone =>
      have exact := alone n near
      rw [value, toReal_finite] at exact
      have isWhole : (m : ℝ) * 2 ^ e = n.natAbs := by
        have size : (0 : ℝ) ≤ m * 2 ^ e := by positivity
        rw [Nat.cast_natAbs, Int.cast_abs, ← exact, abs_mul, abs_signFactor, one_mul,
          abs_of_nonneg size]
      obtain ⟨k, positive, plain, covers, small⟩ :=
        exists_plain_shortest_eq (Format.regular_decode value) some isWhole .up
      refine ⟨signFactor negative * k, ?_, ?_⟩
      · rw [plain, ← signedWhole_eq, signedWhole]
        cases negative <;> simp [positive.ne']
      · rcases lt_or_ge n.natAbs (2 ^ 53) with less | many
        · left
          rw [isWhole, ← Int.cast_natCast, ← Int.cast_mul] at exact
          rw [small less]
          exact Int.cast_injective exact
        · right
          have rounds := covers.roundsTo some value
          refine ⟨many, ?_⟩
          cases negative <;> simpa [signFactor] using rounds

theorem spellsShortest (written : Written x text) (alone : ∀ whole, ¬NearWhole x whole) :
    SpellsShortest text x := by
  cases written with
  | trimmed near => exact absurd near (alone _)
  | @kept negative m e some value _ =>
      refine spellsShortest_plain some value (fun whole exact => ?_) .up
      refine alone (signFactor negative * whole) ((nearWhole_iff value _).mpr ?_)
      rw [exact, ← mul_assoc, signFactor_mul_self, one_mul, Int.cast_natCast, sub_self, abs_zero]
      exact zeroBelow_pos.trans zeroBelow_lt

end Written

theorem numberText_of_not_finite {x : Float} (notFinite : x.isFinite = false) :
    numberText x = ['0'] := by
  have noValue : ¬∃ negative m e, Value.ofFloat x = .finite negative m e := by
    rw [← Value.isFinite_iff, notFinite]
    exact Bool.false_ne_true
  unfold numberText
  cases value : Value.ofFloat x with
  | nan => rfl
  | infinite negative => rfl
  | finite negative m e => exact absurd ⟨negative, m, e, value⟩ noValue

theorem plainDecimal_numberText (x : Float) :
    ∃ negative n places, PlainDecimal (numberText x) negative n places ∧
      (negative = true → 0 < n) := by
  cases finite : x.isFinite with
  | true => exact (written_numberText finite).plainDecimal
  | false =>
      rw [numberText_of_not_finite finite]
      exact ⟨false, 0, 0, plainDecimal_ofInt 0, Bool.noConfusion⟩

/-- A minus sign does not stand in front of a zero. -/
theorem ne_minus_zero {text : List Char}
    (plain : ∃ negative n places, PlainDecimal text negative n places ∧ (negative = true → 0 < n)) :
    text ≠ ['-', '0'] := by
  rintro rfl
  obtain ⟨negative, n, places, plain, signed⟩ := plain
  have zero : Reading.read? ['-', '0'] = some (.decimal true 0 0) := by decide
  rw [read?_eq_decimal_iff.mpr plain.numeric] at zero
  obtain ⟨rfl, rfl, -⟩ := Reading.decimal.inj (Option.some.inj zero)
  exact absurd (signed rfl) (lt_irrefl 0)

/-! ### Lists of points -/

/-- Split a list of points at its blanks, and the points at their commas. -/
def splitPoints (text : List Char) : List (List (List Char)) :=
  if text = [] then [] else (text.splitOn ' ').map (List.splitOn ',')

def coordinates (scale : Float) (p : Point Float) : List (List Char) :=
  [numberText (p.x * scale), numberText (p.y * scale)]

def pointText (scale : Float) (p : Point Float) : List Char :=
  [','].intercalate (coordinates scale p)

theorem chars_pointPieces (scale : Float) (p : Point Float) :
    (pointPieces p).flatMap (Piece.chars scale) = pointText scale p := by
  simp [pointPieces, Piece.chars, Piece.write, pointText, coordinates, List.intercalate]

theorem toList_pointListPieces (points : List (Point Float)) (scale : Float) :
    (writePieces scale (pointListPieces points)).toList =
      [' '].intercalate (points.map (pointText scale)) := by
  rw [toList_writePieces]
  unfold pointListPieces
  induction points with
  | nil => rfl
  | cons first rest inductionHypothesis =>
      cases rest with
      | nil => simp [chars_pointPieces, List.intercalate]
      | cons second others =>
          have cut : (((first :: second :: others).map pointPieces).intersperse
              [.literal " "]).flatten = pointPieces first ++ .literal " " ::
                (((second :: others).map pointPieces).intersperse [.literal " "]).flatten := rfl
          have joined : [' '].intercalate ((first :: second :: others).map (pointText scale)) =
              pointText scale first ++ [' '] ++
                [' '].intercalate ((second :: others).map (pointText scale)) :=
            List.intercalate_cons_cons
          have blank : Piece.chars scale (.literal " ") = [' '] := by
            simp [Piece.chars, Piece.write]
          rw [cut, List.flatMap_append, List.flatMap_cons, inductionHypothesis, chars_pointPieces,
            joined, blank, List.append_assoc]

theorem not_mem_numberText {c : Char} (other : ¬IsNumberChar c) (x : Float) : c ∉ numberText x :=
  fun membership => other (isNumberChar_of_mem_numberText membership)

theorem not_isNumberChar_blank : ¬IsNumberChar ' ' := by
  unfold IsNumberChar
  decide

theorem not_isNumberChar_comma : ¬IsNumberChar ',' := by
  unfold IsNumberChar
  decide

theorem pointText_eq (scale : Float) (p : Point Float) :
    pointText scale p = numberText (p.x * scale) ++ ',' :: numberText (p.y * scale) := by
  simp [pointText, coordinates, List.intercalate]

theorem splitOn_pointText (scale : Float) (p : Point Float) :
    (pointText scale p).splitOn ',' = coordinates scale p := by
  refine List.splitOn_intercalate ',' (fun coordinate membership => ?_) (List.cons_ne_nil _ _)
  rcases List.mem_pair.mp membership with rfl | rfl
  · exact not_mem_numberText not_isNumberChar_comma _
  · exact not_mem_numberText not_isNumberChar_comma _

theorem blank_not_mem_pointText (scale : Float) (p : Point Float) : ' ' ∉ pointText scale p := by
  rw [pointText_eq]
  intro membership
  rcases List.mem_append.mp membership with inFirst | behind
  · exact not_mem_numberText not_isNumberChar_blank _ inFirst
  · rcases List.mem_cons.mp behind with comma | inSecond
    · exact absurd comma (by decide)
    · exact not_mem_numberText not_isNumberChar_blank _ inSecond

theorem splitPoints_toList (points : List (Point Float)) (scale : Float) :
    splitPoints (writePieces scale (pointListPieces points)).toList =
      points.map (coordinates scale) := by
  rw [toList_pointListPieces]
  cases points with
  | nil => rfl
  | cons first rest =>
      have split : ([' '].intercalate ((first :: rest).map (pointText scale))).splitOn ' ' =
          (first :: rest).map (pointText scale) := by
        refine List.splitOn_intercalate ' ' (fun text membership => ?_) (List.cons_ne_nil _ _)
        obtain ⟨p, -, rfl⟩ := List.mem_map.mp membership
        exact blank_not_mem_pointText scale p
      have nonempty : [' '].intercalate ((first :: rest).map (pointText scale)) ≠ [] := by
        intro nothing
        rw [nothing, List.splitOn_nil] at split
        have point := (List.cons.inj split).1
        rw [pointText_eq] at point
        exact List.append_ne_nil_of_right_ne_nil _ (List.cons_ne_nil _ _) point.symm
      rw [splitPoints, if_neg nonempty, split, List.map_map]
      exact List.map_congr_left fun p _ => splitOn_pointText scale p

end Svg

open Number Svg Text in
/-- Every number of a document is a plain decimal: digits, perhaps digits behind a point, and never
an exponent. A minus sign only stands in front of numbers other than zero, and what is not finite is
written as zero. A double next to a whole number is written as this number; from `2 ^ 53` on, where
the double is whole itself, possibly as another whole number that is rounded to it. All others are
spelled by the fewest digits that read back as the double.

Points are written with a comma in each and a blank between two of them, and such a list splits back
into just the coordinates of its points. A document is fixed text around its scaled numbers. -/
theorem numbers_are_plain_decimals :
    (∀ x : Float,
      (∃ negative n places, PlainDecimal (numberText x) negative n places ∧
        (negative = true → 0 < n)) ∧
      numberText x ≠ ['-', '0'] ∧
      (x.isFinite = false → numberText x = ['0']) ∧
      (x.isFinite = true →
        (∀ n, NearWhole x n → ∃ whole : Int, numberText x = Numeral.ofInt whole ∧
          (whole = n ∨ 2 ^ 53 ≤ n.natAbs ∧ RoundsTo whole x)) ∧
        ((∀ n, ¬NearWhole x n) → SpellsShortest (numberText x) x))) ∧
    (∀ (points : List (Point Float)) (scale : Float),
      (writePieces scale (pointListPieces points)).toList =
          [' '].intercalate (points.map (pointText scale)) ∧
        splitPoints (writePieces scale (pointListPieces points)).toList =
          points.map (coordinates scale)) ∧
    ∀ (root : Option String) (page : Page Float), ∃ (first : List Char)
        (rest : List (Float × List Char)), rest.map Prod.fst = drawingNumbers page ∧
      (render root page).toList =
        first ++ rest.flatMap fun (value, text) => numberText (value * page.scale) ++ text := by
  refine ⟨fun x => ?_, fun points scale => ⟨toList_pointListPieces points scale,
    splitPoints_toList points scale⟩, fun root page => ?_⟩
  · have plain := plainDecimal_numberText x
    refine ⟨plain, ?_, numberText_of_not_finite, fun finite => ?_⟩
    · exact ne_minus_zero plain
    · have written := written_numberText finite
      exact ⟨fun n near => written.whole near, written.spellsShortest⟩
  · let pieces := tokenPieces (document root page)
    refine ⟨(cutAtNumbers pieces).1, (cutAtNumbers pieces).2, ?_, ?_⟩
    · rw [map_fst_cutAtNumbers, filterMap_tokenPieces, numbers_document]
    · rw [render, writeTokens_eq, toList_writePieces_cutAtNumbers]

open Number Svg Text in
/-- What trembles below zero is written without a sign, and a half keeps its fraction. -/
theorem trembling_zero_loses_its_sign :
    NearWhole (-5e-8) 0 ∧ numberText (-5e-8) = ['0'] ∧
      (∀ n, ¬NearWhole 12.5 n) ∧ SpellsShortest (numberText 12.5) 12.5 := by
  have trembling : Value.ofFloat (-5e-8) = .finite true 7555786372591432 (-77) := by
    decide +kernel
  have half : Value.ofFloat 12.5 = .finite false 7036874417766400 (-49) := by decide +kernel
  have near : NearWhole (-5e-8) 0 := by
    rw [nearWhole_iff trembling, wholeBelow_eq, Value.toReal]
    norm_num [abs_lt]
  have alone : ∀ n, ¬NearWhole 12.5 n := by
    intro n nearHalf
    have value : (Value.ofFloat 12.5).toReal = 25 / 2 := by
      rw [half, Value.toReal]
      norm_num
    have close := nearHalf.trans wholeBelow_lt
    rw [value] at close
    have twelve : n = 12 := eq_of_near close (by norm_num [abs_le])
    have thirteen : n = 13 := eq_of_near close (by norm_num [abs_le])
    omega
  have finite := Value.isFinite_iff.mpr ⟨_, _, _, trembling⟩
  have finiteHalf := Value.isFinite_iff.mpr ⟨_, _, _, half⟩
  obtain ⟨whole, written, same⟩ := ((numbers_are_plain_decimals.1 (-5e-8)).2.2.2 finite).1 0 near
  obtain rfl := same.resolve_right fun many => absurd many.1 (by decide)
  exact ⟨near, written, alone, ((numbers_are_plain_decimals.1 12.5).2.2.2 finiteHalf).2 alone⟩

end Chronogram
