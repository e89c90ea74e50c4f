import Chronogram.Proofs.Number.Shortest

/-!
Plain decimals.

A plain decimal is an optional minus sign, digits, and, behind a point, digits again; it has no
exponent. Decimals that are written plainly have this form and spell what they stand for, and
without a fraction they are written like any other whole number.
-/

namespace Chronogram.Number

open Text

/-- Digits with digits on both sides of the point, if there is one: their value without the point,
and how many stand behind it. -/
inductive PlainMagnitude : List Char → Nat → Nat → Prop where
  | whole {digits : List Char} {n : Nat} (some : digits ≠ [])
      (denotes : Numeral.Denotes digits n) : PlainMagnitude digits n 0
  | pointed {whole fraction : List Char} {n : Nat} (someWhole : whole ≠ [])
      (someFraction : fraction ≠ []) (denotes : Numeral.Denotes (whole ++ fraction) n) :
      PlainMagnitude (whole ++ '.' :: fraction) n fraction.length

/-- A plain decimal with its sign, its digits and the number of digits behind the point. -/
inductive PlainDecimal : List Char → Bool → Nat → Nat → Prop where
  | bare {text : List Char} {n places : Nat} (magnitude : PlainMagnitude text n places) :
      PlainDecimal text false n places
  | minus {text : List Char} {n places : Nat} (magnitude : PlainMagnitude text n places) :
      PlainDecimal ('-' :: text) true n places

theorem PlainMagnitude.digits {text : List Char} {n places : Nat}
    (magnitude : PlainMagnitude text n places) : Digits text n places := by
  cases magnitude with
  | whole some denotes => exact .whole some denotes
  | pointed someWhole someFraction denotes =>
      exact .pointed (List.append_ne_nil_of_left_ne_nil someWhole _) denotes

theorem PlainDecimal.numeric {text : List Char} {negative : Bool} {n places : Nat}
    (plain : PlainDecimal text negative n places) : Numeric text negative n (-(places : Int)) := by
  rw [← Int.zero_sub]
  cases plain with
  | bare magnitude =>
      exact .intro (by rw [List.append_nil]; exact .bare text) magnitude.digits .absent
  | minus magnitude =>
      exact .intro (by rw [List.append_nil]; exact .minus _) magnitude.digits .absent

theorem plainDecimal_signed {text : List Char} {n places : Nat}
    (magnitude : PlainMagnitude text n places) (negative : Bool) :
    PlainDecimal ((if negative then ['-'] else []) ++ text) negative n places := by
  cases negative with
  | false => exact .bare magnitude
  | true => exact .minus magnitude

theorem denotes_toDigits (n : Nat) : Numeral.Denotes (Nat.toDigits 10 n) n :=
  ⟨fun _ membership => Nat.isDigit_of_mem_toDigits (by decide) (by decide) membership,
    Nat.ofDigitChars_ten_toDigits⟩

theorem plainDecimal_ofInt (n : Int) :
    PlainDecimal (Numeral.ofInt n) (decide (n < 0)) n.natAbs 0 := by
  cases n with
  | ofNat n => exact .bare (.whole (Numeral.ofNat_ne_nil n) (denotes_toDigits n))
  | negSucc n =>
      rw [decide_eq_true (Int.negSucc_lt_zero n)]
      exact .minus (.whole (Numeral.ofNat_ne_nil (n + 1)) (denotes_toDigits (n + 1)))

namespace Decimal

/-- A factor of ten adds a zero. -/
theorem toDigits_mul_pow {n : Nat} (positive : 0 < n) (k : Nat) :
    Nat.toDigits 10 (n * 10 ^ k) = Nat.toDigits 10 n ++ List.replicate k '0' := by
  induction k with
  | zero => simp
  | succ k inductionHypothesis =>
      have multiple : 0 < n * 10 ^ k := Nat.mul_pos positive (Nat.pow_pos (by decide))
      calc Nat.toDigits 10 (n * 10 ^ (k + 1)) = Nat.toDigits 10 (10 * (n * 10 ^ k) + 0) := by
            congr 1
            ring
        _ = Nat.toDigits 10 (n * 10 ^ k) ++ Nat.toDigits 10 0 :=
            (Nat.toDigits_append_toDigits (by decide) multiple (by decide)).symm
        _ = Nat.toDigits 10 n ++ List.replicate (k + 1) '0' := by
            rw [inductionHypothesis, List.append_assoc, List.replicate_succ']
            rfl

/-- A decimal without a fraction is written as the whole number that it is. -/
theorem plain_ofNat {digits : Nat} (positive : 0 < digits) (zeros : Nat) :
    plain ⟨digits, zeros⟩ = Numeral.ofNat (digits * 10 ^ zeros) :=
  (toDigits_mul_pow positive zeros).symm

/-- A decimal with a fraction is written with its digits around the point, or behind it. -/
theorem plainMagnitude_negSucc (digits n : Nat) :
    PlainMagnitude (plain ⟨digits, .negSucc n⟩) digits (n + 1) := by
  have denotes := denotes_toDigits digits
  have some : Nat.toDigits 10 digits ≠ [] := Nat.toDigits_ne_nil
  unfold plain
  dsimp only
  generalize Nat.toDigits 10 digits = row at *
  have long := List.length_pos_iff.mpr some
  split_ifs with inside
  · -- The point stands among the digits.
    have behind : (row.drop (row.length - (n + 1))).length = n + 1 := by
      rw [List.length_drop]
      omega
    have front : (row.take (row.length - (n + 1))).length = row.length - (n + 1) := by
      rw [List.length_take]
      omega
    have pointed := @PlainMagnitude.pointed (row.take (row.length - (n + 1)))
      (row.drop (row.length - (n + 1))) digits
      (List.length_pos_iff.mp (by omega)) (List.length_pos_iff.mp (by omega))
      (by rwa [List.take_append_drop])
    rwa [behind] at pointed
  · -- Zeros fill up the places between the point and the digits.
    let fraction := List.replicate (n + 1 - row.length) '0' ++ row
    have behind : fraction.length = n + 1 := by
      rw [List.length_append, List.length_replicate]
      omega
    have padded : Numeral.Denotes (['0'] ++ fraction) digits := by
      refine ⟨List.forall_mem_append.mpr ⟨List.forall_mem_singleton.mpr rfl,
        List.forall_mem_append.mpr ⟨?_, denotes.1⟩⟩, ?_⟩
      · intro c zero
        rw [(List.mem_replicate.mp zero).2]
        rfl
      · have nothing : 10 * 0 + ('0'.toNat - '0'.toNat) = 0 := rfl
        rw [List.singleton_append, Nat.ofDigitChars_cons, nothing, Nat.ofDigitChars_append,
          Nat.ofDigitChars_replicate_zero, Nat.mul_zero, denotes.2]
    have pointed := PlainMagnitude.pointed (List.cons_ne_nil '0' [])
      (List.append_ne_nil_of_right_ne_nil _ some) padded
    rwa [behind] at pointed

/-- A decimal above zero is written as a plain decimal that stands for it. Its digits are kept if it
has a fraction. -/
theorem exists_plainMagnitude {d : Decimal} (positive : 0 < d.digits) :
    ∃ n places, PlainMagnitude d.plain n places ∧ 0 < n ∧
      (n : ℝ) * 10 ^ (-(places : Int)) = d.toReal ∧ (d.exponent < 0 → n = d.digits) := by
  obtain ⟨digits, exponent⟩ := d
  cases exponent with
  | ofNat zeros =>
      refine ⟨digits * 10 ^ zeros, 0, ?_, Nat.mul_pos positive (Nat.pow_pos (by decide)), ?_, ?_⟩
      · have written := plain_ofNat positive zeros
        exact written ▸ .whole (Numeral.ofNat_ne_nil _) (denotes_toDigits _)
      · simp [toReal_eq]
      · intro fraction
        exact absurd fraction (by simp)
  | negSucc n =>
      refine ⟨digits, n + 1, plainMagnitude_negSucc digits n, positive, ?_, fun _ => rfl⟩
      rw [toReal_eq]
      rfl

end Decimal

/-- A double that is a whole number is written as a whole number that is rounded to it. Below
`2 ^ 53` this is the same number. -/
theorem exists_plain_shortest_eq {m : Nat} {e : Int} (regular : Format.double.Regular m e)
    (positive : 0 < m) {whole : Nat} (isWhole : (m : ℝ) * 2 ^ e = whole) (tie : Tie) :
    ∃ n : Nat, 0 < n ∧ (Decimal.shortest tie m e).plain = Numeral.ofNat n ∧ Covers m e n ∧
      (whole < 2 ^ 53 → n = whole) := by
  have covers := Decimal.covers_shortest regular.fits positive tie e
  have some := Decimal.digits_shortest_pos regular.fits positive tie e
  have exponent := Decimal.exponent_shortest_nonneg regular.fits positive tie isWhole
  generalize Decimal.shortest tie m e = d at *
  obtain ⟨digits, power⟩ := d
  obtain ⟨zeros, rfl⟩ := Int.eq_ofNat_of_zero_le exponent
  rw [Decimal.toReal_of_nonneg exponent] at covers
  refine ⟨digits * 10 ^ zeros, Nat.mul_pos some (Nat.pow_pos (by decide)),
    Decimal.plain_ofNat some zeros, covers, fun small => ?_⟩
  obtain ⟨-, -, -, full⟩ := Format.regular_double_iff.mp regular
  have fractional : e ≤ 0 := by
    by_contra above
    have fullReal : (2 : ℝ) ^ 52 ≤ m := by exact_mod_cast full.resolve_left (by omega)
    have smallReal : (m : ℝ) * 2 ^ e < 2 ^ 53 := by
      rw [isWhole]
      exact_mod_cast small
    have grown : (2 : ℝ) ^ (1 : Int) ≤ 2 ^ e := zpow_le_zpow_right₀ one_le_two (by omega)
    rw [zpow_one] at grown
    have size := mul_le_mul fullReal grown zero_le_two (Nat.cast_nonneg m)
    linarith
  exact Nat.cast_injective ((covers.eq_natCast fractional).symm.trans isWhole)

/-- A text spells a decimal that is rounded to a double, and no decimal with fewer digits is. -/
inductive SpellsShortest (text : List Char) (x : Float) : Prop where
  | intro {negative : Bool} {n : Nat} {exponent : Int} (numeric : Numeric text negative n exponent)
      (rounds : RoundsTo ((if negative then -(n : ℝ) else n) * 10 ^ exponent) x)
      (fewest : ∀ (sign : Bool) (k : Nat) (power : Int),
        RoundsTo ((if sign then -(k : ℝ) else k) * 10 ^ power) x →
          Decimal.length n ≤ Decimal.length k) : SpellsShortest text x

theorem spellsShortest_plain {x : Float} {negative : Bool} {m : Nat} {e : Int} (positive : 0 < m)
    (value : Value.ofFloat x = .finite negative m e)
    (broken : ∀ whole : Nat, (m : ℝ) * 2 ^ e ≠ whole) (tie : Tie) :
    SpellsShortest ((if negative then ['-'] else []) ++ (Decimal.shortest tie m e).plain) x := by
  have fits := (Format.regular_decode value).fits
  have covers := Decimal.covers_shortest fits positive tie e
  obtain ⟨n, places, magnitude, -, same, digits⟩ :=
    Decimal.exists_plainMagnitude (Decimal.digits_shortest_pos fits positive tie e)
  have fraction : (Decimal.shortest tie m e).exponent < 0 := by
    by_contra whole
    rw [Decimal.toReal_of_nonneg (not_lt.mp whole)] at covers
    rcases le_total e 0 with fractional | wholePlaces
    · exact broken _ (covers.eq_natCast fractional)
    · obtain ⟨k, rfl⟩ := Int.eq_ofNat_of_zero_le wholePlaces
      refine broken (m * 2 ^ k) ?_
      push_cast
      rw [zpow_natCast]
  refine .intro (plainDecimal_signed magnitude negative).numeric ?_ ?_
  · have rounds := covers.roundsTo positive value
    rw [← same] at rounds
    cases negative with
    | false => exact rounds
    | true => rwa [if_pos rfl, neg_mul]
  · intro sign k power rounds
    rw [digits fraction]
    exact Decimal.length_shortest_le fits positive tie (covers_of_roundsTo positive value rounds)

end Chronogram.Number
