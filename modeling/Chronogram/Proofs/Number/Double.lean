import Chronogram.Proofs.Number.Rounding
import Mathlib

/-!
Doubles and their values.

The value of a double is read off its encoding. Reading and writing an encoding undo each other on
the values that doubles have, and the order and the finiteness of doubles are those of their values.
-/

namespace Chronogram.Number

open Float.Model (UnpackedFloat)

namespace Format

theorem decode_double (bits : Nat) :
    double.decode bits =
      if bits / 2 ^ 52 % 2 ^ 11 = 2047 then
        if bits % 2 ^ 52 = 0 then .infinite (bits / 2 ^ 63 % 2 = 1) else .nan
      else if bits / 2 ^ 52 % 2 ^ 11 = 0 then
        .finite (bits / 2 ^ 63 % 2 = 1) (bits % 2 ^ 52) (-1074)
      else
        .finite (bits / 2 ^ 63 % 2 = 1) (2 ^ 52 + bits % 2 ^ 52)
          (-1074 + ((bits / 2 ^ 52 % 2 ^ 11 : Nat) - 1 : Int)) := by
  simp only [decode, double, fieldCount, fullMantissa, Nat.shiftRight_eq_div_pow, Nat.one_shiftLeft]

theorem encode_double (negative : Bool) (mantissa : Nat) (exponent : Int) :
    double.encode (.finite negative mantissa exponent) =
      if mantissa < 2 ^ 52 then negative.toNat * 2 ^ 63 + mantissa
      else
        negative.toNat * 2 ^ 63 + ((exponent + 1074).toNat + 1) * 2 ^ 52 +
          (mantissa - 2 ^ 52) := by
  simp only [encode, double, fullMantissa, Nat.shiftLeft_eq]
  rfl

theorem regular_double_iff {mantissa : Nat} {exponent : Int} :
    double.Regular mantissa exponent ↔
      mantissa < 2 ^ 53 ∧ -1074 ≤ exponent ∧ exponent ≤ 971 ∧
        (exponent = -1074 ∨ 2 ^ 52 ≤ mantissa) := by
  have greatest : double.greatestExponent = 971 := by decide
  have parts : double.Regular mantissa exponent ↔
      mantissa < 2 ^ double.precision ∧ double.leastExponent ≤ exponent ∧
        exponent ≤ double.greatestExponent ∧
        (exponent = double.leastExponent ∨ 2 ^ (double.precision - 1) ≤ mantissa) :=
    ⟨fun ⟨fits, least, great, full⟩ => ⟨fits, least, great, full⟩,
      fun ⟨fits, least, great, full⟩ => ⟨fits, least, great, full⟩⟩
  rw [parts, greatest]
  simp only [double, Nat.add_one_sub_one]

theorem regular_decode {bits mantissa : Nat} {negative : Bool} {exponent : Int}
    (decoded : double.decode bits = .finite negative mantissa exponent) :
    double.Regular mantissa exponent := by
  rw [decode_double] at decoded
  rw [regular_double_iff]
  split_ifs at decoded with special zero least
  · obtain ⟨-, rfl, rfl⟩ := Value.finite.inj decoded
    omega
  · obtain ⟨-, rfl, rfl⟩ := Value.finite.inj decoded
    omega

theorem encode_lt {mantissa : Nat} {exponent : Int} (regular : double.Regular mantissa exponent)
    (negative : Bool) : double.encode (.finite negative mantissa exponent) < 2 ^ 64 := by
  obtain ⟨fits, least, greatest, full⟩ := regular_double_iff.mp regular
  rw [encode_double]
  have sign : negative.toNat ≤ 1 := Bool.toNat_le negative
  split_ifs <;> omega

/-- Reading the fields that an encoding is put together from. -/
theorem decode_fields (negative : Bool) (field fraction : Nat) (fieldFits : field < 2047)
    (fractionFits : fraction < 2 ^ 52) :
    double.decode (negative.toNat * 2 ^ 63 + field * 2 ^ 52 + fraction) =
      if field = 0 then .finite negative fraction (-1074)
      else .finite negative (2 ^ 52 + fraction) (-1074 + (field - 1 : Int)) := by
  have sign := Bool.toNat_le negative
  have signRead :
      decide ((negative.toNat * 2 ^ 63 + field * 2 ^ 52 + fraction) / 2 ^ 63 % 2 = 1) =
        negative := by
    have quotient : (negative.toNat * 2 ^ 63 + field * 2 ^ 52 + fraction) / 2 ^ 63 % 2 =
        negative.toNat := by omega
    rw [quotient]
    cases negative <;> rfl
  have fieldRead : (negative.toNat * 2 ^ 63 + field * 2 ^ 52 + fraction) / 2 ^ 52 % 2 ^ 11 =
      field := by omega
  have fractionRead : (negative.toNat * 2 ^ 63 + field * 2 ^ 52 + fraction) % 2 ^ 52 =
      fraction := by omega
  rw [decode_double, signRead, fieldRead, fractionRead, if_neg fieldFits.ne]

theorem decode_encode {mantissa : Nat} {exponent : Int} (regular : double.Regular mantissa exponent)
    (negative : Bool) :
    double.decode (double.encode (.finite negative mantissa exponent)) =
      .finite negative mantissa exponent := by
  obtain ⟨fits, least, greatest, full⟩ := regular_double_iff.mp regular
  rw [encode_double]
  split_ifs with small
  · have decoded := decode_fields negative 0 mantissa (by decide) small
    rw [Nat.zero_mul, Nat.add_zero, if_pos rfl] at decoded
    rw [decoded, full.resolve_right (by omega)]
  · have mantissaRead : 2 ^ 52 + (mantissa - 2 ^ 52) = mantissa := by omega
    have exponentRead :
        -1074 + (((exponent + 1074).toNat + 1 : Nat) - 1 : Int) = exponent := by omega
    rw [decode_fields negative _ _ (by omega) (by omega), if_neg (by omega), mantissaRead,
      exponentRead]

theorem encode_decode {bits mantissa : Nat} {negative : Bool} {exponent : Int}
    (word : bits < 2 ^ 64) (decoded : double.decode bits = .finite negative mantissa exponent) :
    double.encode (.finite negative mantissa exponent) = bits := by
  rw [decode_double] at decoded
  rw [encode_double]
  have sign : (decide (bits / 2 ^ 63 % 2 = 1)).toNat = bits / 2 ^ 63 := by
    rcases Nat.mod_two_eq_zero_or_one (bits / 2 ^ 63) with even | odd
    · rw [even]
      simp only [Nat.zero_ne_one, decide_false, Bool.toNat_false]
      omega
    · rw [odd]
      simp only [decide_true, Bool.toNat_true]
      omega
  split_ifs at decoded with special zero least
  · obtain ⟨rfl, rfl, rfl⟩ := Value.finite.inj decoded
    rw [if_pos (by omega), sign]
    omega
  · obtain ⟨rfl, rfl, rfl⟩ := Value.finite.inj decoded
    rw [if_neg (by omega), sign]
    omega

theorem decode_parity {bits mantissa : Nat} {negative : Bool} {exponent : Int}
    (decoded : double.decode bits = .finite negative mantissa exponent) :
    mantissa % 2 = bits % 2 := by
  rw [decode_double] at decoded
  split_ifs at decoded with special zero least
  · obtain ⟨-, rfl, -⟩ := Value.finite.inj decoded
    omega
  · obtain ⟨-, rfl, -⟩ := Value.finite.inj decoded
    omega

end Format

namespace Value

def isMinus : UnpackedFloat.Sign → Bool
  | .negative => true
  | .positive => false

def ofUnpacked : UnpackedFloat → Value
  | .notANumber => .nan
  | .infinity sign => .infinite (isMinus sign)
  | .zero sign => .finite (isMinus sign) 0 (-1074)
  | .finite sign mantissa exponent _ => .finite (isMinus sign) mantissa exponent

theorem isMinus_ofBitVec (bit : BitVec 1) : isMinus (.ofBitVec bit) = decide (bit.toNat = 1) := by
  revert bit
  decide

theorem toNat_one_append (fraction : BitVec 52) :
    (1#1 ++ fraction).toNat = 2 ^ 52 + fraction.toNat := by
  rw [BitVec.toNat_append, ← Nat.shiftLeft_add_eq_or_of_lt fraction.isLt, Nat.shiftLeft_eq]
  rfl

section Fields

variable (b : BitVec Float.Model.Format.binary64.numBits)

theorem toNat_unpackSign : (UnpackedFloat.unpackSign b).toNat = b.toNat / 2 ^ 63 % 2 := by
  simp [UnpackedFloat.unpackSign_def, BitVec.extractLsb'_toNat, Nat.shiftRight_eq_div_pow]

theorem toNat_unpackMantissa : (UnpackedFloat.unpackMantissa b).toNat = b.toNat % 2 ^ 52 := by
  simp [UnpackedFloat.unpackMantissa_def, BitVec.extractLsb'_toNat]

theorem toNat_unpackExponent :
    (UnpackedFloat.unpackExponent b).toNat = b.toNat / 2 ^ 52 % 2 ^ 11 := by
  simp [UnpackedFloat.unpackExponent_def, BitVec.extractLsb'_toNat, Nat.shiftRight_eq_div_pow]

theorem unpackExponent_eq_iff (field : BitVec 11) :
    UnpackedFloat.unpackExponent b = field ↔ b.toNat / 2 ^ 52 % 2 ^ 11 = field.toNat := by
  rw [← toNat_unpackExponent, ← BitVec.toNat_inj]

theorem unpackMantissa_eq_iff (fraction : BitVec 52) :
    UnpackedFloat.unpackMantissa b = fraction ↔ b.toNat % 2 ^ 52 = fraction.toNat := by
  rw [← toNat_unpackMantissa, ← BitVec.toNat_inj]

theorem decode_toNat :
    Format.double.decode b.toNat =
      ofUnpacked (UnpackedFloat.unpack Float.Model.Format.binary64 b) := by
  have special : b.toNat / 2 ^ 52 % 2 ^ 11 = 2047 ↔ UnpackedFloat.unpackExponent b = -1#11 :=
    (unpackExponent_eq_iff b (-1#11)).symm
  have least : b.toNat / 2 ^ 52 % 2 ^ 11 = 0 ↔ UnpackedFloat.unpackExponent b = 0#11 :=
    (unpackExponent_eq_iff b 0#11).symm
  have none : b.toNat % 2 ^ 52 = 0 ↔ UnpackedFloat.unpackMantissa b = 0#52 :=
    (unpackMantissa_eq_iff b 0#52).symm
  rw [Format.decode_double, ← toNat_unpackSign, ← isMinus_ofBitVec]
  simp only [special, least, none]
  fun_cases UnpackedFloat.unpack Float.Model.Format.binary64 b with
  | case1 fractionBits fieldBits signBits signRead isSpecial isNone =>
    rw [if_pos isSpecial, if_pos isNone]
    rfl
  | case2 fractionBits fieldBits isSpecial isSome =>
    rw [if_pos isSpecial, if_neg isSome]
    rfl
  | case3 fractionBits fieldBits signBits signRead notSpecial isLeast isNone =>
    rw [if_neg notSpecial, if_pos isLeast, none.mpr isNone]
    rfl
  | case4 fractionBits fieldBits exponent signBits signRead notSpecial isLeast isSome =>
    have place : exponent + 1 = -1074 := by
      have fieldValue : (fieldBits.toNat : Int) = 0 := by
        rw [show fieldBits = 0#11 from isLeast]
        rfl
      change (fieldBits.toNat : Int) - (1023 + 52) + 1 = -1074
      omega
    rw [if_neg notSpecial, if_pos isLeast, ofUnpacked, place, ← toNat_unpackMantissa]
  | case5 fractionBits fieldBits exponent signBits signRead notSpecial notLeast =>
    have place : -1074 + ((b.toNat / 2 ^ 52 % 2 ^ 11 : Nat) - 1 : Int) = exponent := by
      rw [← toNat_unpackExponent]
      change -1074 + ((fieldBits.toNat : Int) - 1) = (fieldBits.toNat : Int) - (1023 + 52)
      omega
    rw [if_neg notSpecial, if_neg notLeast, ofUnpacked, place, toNat_one_append,
      ← toNat_unpackMantissa]

end Fields

theorem ofFloat_eq (x : Float) : ofFloat x = ofUnpacked x.toModel.unpack :=
  decode_toNat x.toBits.toBitVec

theorem isFinite_iff {x : Float} :
    x.isFinite = true ↔ ∃ negative mantissa exponent,
      ofFloat x = .finite negative mantissa exponent := by
  change x.toModel.unpack.isFinite = true ↔ _
  rw [ofFloat_eq]
  cases x.toModel.unpack with
  | infinity sign => simp [ofUnpacked, UnpackedFloat.isFinite]
  | notANumber => simp [ofUnpacked, UnpackedFloat.isFinite]
  | zero sign => simp [ofUnpacked, UnpackedFloat.isFinite]
  | finite sign mantissa exponent positive => simp [ofUnpacked, UnpackedFloat.isFinite]

theorem unpack_zero : (0 : Float).toModel.unpack = .zero .positive := by
  have bits : (0 : Float).toBits = 0 := by decide +kernel
  change UnpackedFloat.unpack Float.Model.Format.binary64 (0 : Float).toBits.toBitVec = _
  rw [bits]
  rfl

theorem isPositive_ofFloat {x : Float} :
    (ofFloat x).isPositive = true ↔ x.isFinite = true ∧ 0 < x := by
  have order : 0 < x ↔ UnpackedFloat.lt (0 : Float).toModel.unpack x.toModel.unpack = true :=
    decide_eq_true_iff
  change _ ↔ x.toModel.unpack.isFinite = true ∧ _
  rw [ofFloat_eq, order, unpack_zero]
  cases x.toModel.unpack with
  | infinity sign => cases sign <;> simp [ofUnpacked, UnpackedFloat.isFinite, isPositive]
  | notANumber => simp [ofUnpacked, UnpackedFloat.isFinite, isPositive]
  | zero sign => cases sign <;> decide
  | finite sign mantissa exponent positive =>
      cases sign <;>
        simp [ofUnpacked, UnpackedFloat.isFinite, isPositive, isMinus, UnpackedFloat.lt,
          UnpackedFloat.compare, positive.ne']

/-- Encodings of numbers and infinities are kept. -/
theorem toBits_ofBits {bits : UInt64} (number : Format.double.decode bits.toNat ≠ .nan) :
    (Float.ofBits bits).toBits = bits := by
  have kept : @UnpackedFloat.isNaNBits Float.Model.Format.binary64 bits.toBitVec = false := by
    refine Bool.eq_false_iff.mpr fun isNaN => number ?_
    obtain ⟨special, some⟩ := of_decide_eq_true isNaN
    refine (decode_toNat bits.toBitVec).trans ?_
    rw [UnpackedFloat.unpack, if_pos special, if_neg some]
    rfl
  have repacked := @UnpackedFloat.pack_unpack Float.Model.Format.binary64 bits.toBitVec (by decide)
  refine UInt64.toBitVec_inj.mp (repacked.trans ?_)
  rw [kept]
  rfl

theorem ofFloat_toFloat {mantissa : Nat} {exponent : Int}
    (regular : Format.double.Regular mantissa exponent) (negative : Bool) :
    ofFloat (toFloat (.finite negative mantissa exponent)) = .finite negative mantissa exponent := by
  have word := Format.encode_lt regular negative
  have decoded := Format.decode_encode regular negative
  have kept : (UInt64.ofNat (Format.double.encode (.finite negative mantissa exponent))).toNat =
      Format.double.encode (.finite negative mantissa exponent) := UInt64.toNat_ofNat_of_lt' word
  have number : Format.double.decode (UInt64.ofNat
      (Format.double.encode (.finite negative mantissa exponent))).toNat ≠ .nan := by
    rw [kept, decoded]
    exact Value.noConfusion
  rw [ofFloat, toFloat, toBits_ofBits number, kept, decoded]

theorem toFloat_of_ofFloat_eq {x : Float} {negative : Bool} {mantissa : Nat} {exponent : Int}
    (value : ofFloat x = .finite negative mantissa exponent) :
    toFloat (.finite negative mantissa exponent) = x := by
  rw [toFloat, Format.encode_decode x.toBits.toNat_lt value, UInt64.ofNat_toNat,
    Float.ofBits_toBits]

end Value

/-- The double that a number is rounded to: no finite double lies nearer to it, and where another
one lies as near, the encoding is even. Numbers from halfway between the greatest double and the
next power of two on are not rounded to a finite double. -/
structure RoundsTo (q : ℝ) (x : Float) : Prop where
  below : |q| < 2 ^ 1024 - 2 ^ 970
  finite : x.isFinite = true
  nearest : ∀ y : Float, y.isFinite = true →
    |q - (Value.ofFloat x).toReal| ≤ |q - (Value.ofFloat y).toReal|
  even : ∀ y : Float, y.isFinite = true → (Value.ofFloat y).toReal ≠ (Value.ofFloat x).toReal →
    |q - (Value.ofFloat x).toReal| = |q - (Value.ofFloat y).toReal| → x.toBits.toNat % 2 = 0

theorem limit_double : Format.double.limit = 2 ^ 1024 - 2 ^ 970 := by
  have greatest : Format.double.greatestExponent = (971 : Nat) := by decide
  have next : (2 : ℝ) ^ 53 * 2 ^ 971 = 2 ^ 1024 := (pow_add 2 53 971).symm
  have doubled : (2 : ℝ) ^ 971 = 2 ^ 970 * 2 := pow_succ 2 970
  rw [Format.limit, greatest, zpow_natCast]
  change ((2 : ℝ) ^ 53 - 1 / 2) * 2 ^ 971 = _
  rw [sub_mul, next, doubled]
  generalize (2 : ℝ) ^ 970 = half
  generalize (2 : ℝ) ^ 1024 = power
  ring

section

variable {q : ℝ} {m : Nat} {e : Int}

/-- A double below zero lies farther off than zero does. -/
theorem farther_of_negative (positive : 0 < q) (prefers : Format.double.Prefers q m e) {y : Float}
    {k : Nat} {f : Int} (value : Value.ofFloat y = .finite true k f) (some : 0 < k) :
    |q - m * 2 ^ e| < |q - (Value.ofFloat y).toReal| := by
  have nearZero : |q - m * 2 ^ e| ≤ q := by
    have zero := prefers 0 Format.double.leastExponent (Nat.two_pow_pos _) (le_refl _)
    have distance : |q - (0 : Nat) * 2 ^ Format.double.leastExponent| = q := by
      rw [Nat.cast_zero, zero_mul, sub_zero, abs_of_pos positive]
    exact le_of_le_of_eq zero.le distance
  have negativeValue : (Value.ofFloat y).toReal = -(k * 2 ^ f) := by
    rw [value, Value.toReal, if_pos rfl, neg_mul]
  have size : (0 : ℝ) < k * 2 ^ f := mul_pos (Nat.cast_pos.mpr some) (zpow_pos two_pos f)
  rw [negativeValue, sub_neg_eq_add, abs_of_pos (add_pos positive size)]
  exact lt_of_le_of_lt nearZero (lt_add_of_pos_right q size)

/-- How the preferred number compares with the finite doubles. -/
theorem compare_double (positive : 0 < q)
    (prefers : Format.double.Prefers q m e) {y : Float} (finite : y.isFinite = true) :
    (Value.ofFloat y).toReal = m * 2 ^ e ∨ |q - m * 2 ^ e| < |q - (Value.ofFloat y).toReal| ∨
      (|q - m * 2 ^ e| = |q - (Value.ofFloat y).toReal| ∧ m % 2 = 0 ∧ y.toBits.toNat % 2 = 1) := by
  obtain ⟨negative, k, f, value⟩ := Value.isFinite_iff.mp finite
  have regular := Format.regular_decode value
  by_cases below : negative = true ∧ 0 < k
  · obtain ⟨rfl, some⟩ := below
    exact .inr (.inl (farther_of_negative positive prefers value some))
  · have exact : (Value.ofFloat y).toReal = k * 2 ^ f := by
      rw [value, Value.toReal]
      cases negative with
      | false => rfl
      | true =>
          have zero : k = 0 := Nat.eq_zero_of_not_pos fun some => below ⟨rfl, some⟩
          rw [zero, if_pos rfl, Nat.cast_zero, neg_zero]
    rw [exact]
    cases prefers k f regular.fits regular.least with
    | same equal => exact .inl equal
    | nearer farther => exact .inr (.inl farther)
    | even tie even odd => exact .inr (.inr ⟨tie, even, Format.decode_parity value ▸ odd⟩)

theorem roundsTo_toFloat (positive : 0 < q) (regular : Format.double.Regular m e)
    (below : q < Format.double.limit)
    (prefers : Format.double.Prefers q m e) : RoundsTo q (Value.toFloat (.finite false m e)) := by
  have value := Value.ofFloat_toFloat regular false
  have exact : (Value.ofFloat (Value.toFloat (.finite false m e))).toReal = m * 2 ^ e := by
    rw [value]
    rfl
  refine ⟨?_, Value.isFinite_iff.mpr ⟨_, _, _, value⟩, fun y finite => ?_, fun y finite => ?_⟩
  · rw [abs_of_pos positive, ← limit_double]
    exact below
  · rw [exact]
    rcases compare_double positive prefers finite with same | farther | ⟨tie, -⟩
    · rw [same]
    · exact farther.le
    · exact tie.le
  · rw [exact]
    intro different tied
    rcases compare_double positive prefers finite with same | farther | ⟨-, even, -⟩
    · exact absurd same different
    · exact absurd tied farther.ne
    · rw [← Format.decode_parity value]
      exact even

/-- A number is rounded to one double above zero only. -/
theorem eq_toFloat_of_roundsTo (positive : 0 < q) (regular : Format.double.Regular m e)
    (prefers : Format.double.Prefers q m e) {x : Float} (rounds : RoundsTo q x) (above : 0 < x) :
    Value.toFloat (.finite false m e) = x := by
  have value := Value.ofFloat_toFloat regular false
  have finite := Value.isFinite_iff.mpr ⟨_, _, _, value⟩
  have exact : (Value.ofFloat (Value.toFloat (.finite false m e))).toReal = m * 2 ^ e := by
    rw [value]
    rfl
  have nearest := rounds.nearest _ finite
  have even := rounds.even _ finite
  rw [exact] at nearest even
  by_cases same : (Value.ofFloat x).toReal = m * 2 ^ e
  · have aboveValue := Value.isPositive_ofFloat.mpr ⟨rounds.finite, above⟩
    obtain ⟨negative, k, f, xValue⟩ := Value.isFinite_iff.mp rounds.finite
    have xRegular := Format.regular_decode xValue
    rw [xValue] at same aboveValue
    cases negative with
    | true => exact Bool.noConfusion aboveValue
    | false =>
        obtain ⟨rfl, rfl⟩ := xRegular.unique Format.double regular (by decide) same
        exact Value.toFloat_of_ofFloat_eq xValue
  · rcases compare_double positive prefers rounds.finite with equal | farther | ⟨tie, -, odd⟩
    · exact absurd equal same
    · exact absurd nearest (not_le.mpr farther)
    · rw [even (Ne.symm same) tie.symm] at odd
      exact absurd odd (by decide)

end

/-- The doubles above zero that a number above zero is rounded to are read off its rounding. -/
theorem roundsTo_iff {q : ℝ} (positive : 0 < q) {value : Value}
    (rounds : Format.double.Rounds q value) {x : Float} :
    RoundsTo q x ∧ 0 < x ↔ value.isPositive = true ∧ value.toFloat = x := by
  constructor
  · rintro ⟨roundsTo, above⟩
    cases rounds with
    | overflow beyond =>
        have below := roundsTo.below
        rw [abs_of_pos positive, ← limit_double] at below
        exact absurd beyond (not_le.mpr below)
    | finite regular below prefers =>
        have made := eq_toFloat_of_roundsTo positive regular prefers roundsTo above
        have aboveValue := Value.isPositive_ofFloat.mpr ⟨roundsTo.finite, above⟩
        rw [← made, Value.ofFloat_toFloat regular] at aboveValue
        exact ⟨aboveValue, made⟩
  · rintro ⟨above, rfl⟩
    cases rounds with
    | overflow beyond => exact Bool.noConfusion above
    | finite regular below prefers =>
        rw [← Value.ofFloat_toFloat regular false] at above
        exact ⟨roundsTo_toFloat positive regular below prefers,
          (Value.isPositive_ofFloat.mp above).2⟩

end Chronogram.Number
