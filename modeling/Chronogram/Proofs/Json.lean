import Chronogram.Json
import Chronogram.Markup.Entity
import Chronogram.Proofs.Number.Plain

/-!
JSON texts.

The grammar of JSON is stated apart from the writer, as relations between a text and the value that
it spells. Whatever is written for a value spells that value: what stands for a finite number is
rounded to this number again, and every character of a string is kept. A compact text has no white
space between its parts.
-/

namespace Chronogram.Json

open Number Text

/-! ### The grammar -/

/-- White space between the parts of a text, if there may be any. -/
def Blank (spaced : Bool) (text : List Char) : Prop :=
  ∀ c ∈ text, spaced = true ∧ c ∈ [' ', '\n', '\r', '\t']

/-- No zero stands in front of other digits. -/
def Unpadded (digits : List Char) : Prop :=
  ∀ rest, digits = '0' :: rest → rest = [] ∨ ∃ behind, rest = '.' :: behind

/-- Digits, perhaps around a point, and perhaps a power of ten. -/
inductive Magnitude : List Char → Nat → Int → Prop where
  | intro {digits power : List Char} {n places : Nat} {exponent : Int}
      (plain : PlainMagnitude digits n places) (unpadded : Unpadded digits)
      (raised : Power power exponent) : Magnitude (digits ++ power) n (exponent - places)

inductive Amount : List Char → Bool → Nat → Int → Prop where
  | bare {text : List Char} {n : Nat} {exponent : Int} (magnitude : Magnitude text n exponent) :
      Amount text false n exponent
  | minus {text : List Char} {n : Nat} {exponent : Int} (magnitude : Magnitude text n exponent) :
      Amount ('-' :: text) true n exponent

/-- What a letter behind a backslash stands for. -/
def escapes : List (Char × Char) :=
  [('"', '"'), ('\\', '\\'), ('/', '/'), ('b', '\x08'), ('f', '\x0c'), ('n', '\n'), ('r', '\r'),
    ('t', '\t')]

/-- The characters of a string between its quotes. -/
inductive Characters : List Char → List Char → Prop where
  | none : Characters [] []
  | plain {c : Char} {text rest : List Char} (visible : 0x20 ≤ c.toNat)
      (ordinary : c ≠ '"' ∧ c ≠ '\\') (others : Characters text rest) :
      Characters (c :: text) (c :: rest)
  | escape {letter c : Char} {text rest : List Char} (listed : (letter, c) ∈ escapes)
      (others : Characters text rest) : Characters ('\\' :: letter :: text) (c :: rest)
  | code {digits text rest : List Char} {values : List Nat} {c : Char} (four : digits.length = 4)
      (hexadecimal : digits.mapM Markup.hexValue? = some values)
      (means : values.foldl (16 * · + ·) 0 = c.toNat) (others : Characters text rest) :
      Characters ('\\' :: 'u' :: (digits ++ text)) (c :: rest)

mutual

/-- A text spells a value. A number that is not finite has no text of its own. -/
inductive Spells (spaced : Bool) : List Char → Json → Prop where
  | null : Spells spaced "null".toList .null
  | missing {x : Float} (notFinite : x.isFinite = false) : Spells spaced "null".toList (.number x)
  | bool (value : Bool) :
      Spells spaced (if value then "true".toList else "false".toList) (.bool value)
  | whole {text : List Char} {negative : Bool} {n : Nat} (amount : Amount text negative n 0) :
      Spells spaced text (.whole (if negative then -(n : Int) else n))
  | number {text : List Char} {negative : Bool} {n m : Nat} {exponent e : Int} {x : Float}
      (value : Value.ofFloat x = .finite negative m e) (amount : Amount text negative n exponent)
      (rounds : RoundsTo ((if negative then -(n : ℝ) else n) * 10 ^ exponent) x) :
      Spells spaced text (.number x)
  | string {text : List Char} {value : String} (characters : Characters text value.toList) :
      Spells spaced ('"' :: (text ++ ['"'])) (.string value)
  | list {text : List Char} {items : List Json}
      (inside : Within spaced text (items.map (none, ·))) :
      Spells spaced ('[' :: (text ++ [']'])) (.list items)
  | record {text : List Char} {fields : List (String × Json)}
      (inside : Within spaced text (fields.map fun field => (some field.1, field.2))) :
      Spells spaced ('\x7b' :: (text ++ ['\x7d'])) (.record fields)
  | table {text : List Char} {entries : List (String × Json)}
      (inside : Within spaced text (entries.map fun entry => (some entry.1, entry.2))) :
      Spells spaced ('\x7b' :: (text ++ ['\x7d'])) (.table entries)

/-- What stands between brackets. -/
inductive Within (spaced : Bool) : List Char → List (Option String × Json) → Prop where
  | none {blank : List Char} (empty : Blank spaced blank) : Within spaced blank []
  | some {text : List Char} {parts : List (Option String × Json)} (row : Row spaced text parts) :
      Within spaced text parts

/-- Parts with commas between them. -/
inductive Row (spaced : Bool) : List Char → List (Option String × Json) → Prop where
  | last {before text after : List Char} {part : Option String × Json}
      (front : Blank spaced before) (here : Part spaced text part) (back : Blank spaced after) :
      Row spaced (before ++ text ++ after) [part]
  | cons {before text after rest : List Char} {part : Option String × Json}
      {parts : List (Option String × Json)} (front : Blank spaced before)
      (here : Part spaced text part) (back : Blank spaced after) (others : Row spaced rest parts) :
      Row spaced (before ++ text ++ after ++ ',' :: rest) (part :: parts)

/-- A value, perhaps with a name in front. -/
inductive Part (spaced : Bool) : List Char → Option String × Json → Prop where
  | item {text : List Char} {value : Json} (here : Spells spaced text value) :
      Part spaced text (none, value)
  | member {name front back text : List Char} {key : String} {value : Json}
      (named : Characters name key.toList) (before : Blank spaced front)
      (behind : Blank spaced back) (here : Spells spaced text value) :
      Part spaced ('"' :: (name ++ '"' :: (front ++ ':' :: (back ++ text)))) (some key, value)

end

/-! ### Numbers -/

theorem unpadded_of_head {digits : List Char} (other : digits.head? ≠ some '0') :
    Unpadded digits := by
  rintro rest rfl
  exact absurd rfl other

theorem head?_toDigits {n : Nat} (positive : 0 < n) :
    (Nat.toDigits 10 n).head? ≠ some '0' := by
  induction n using Nat.strongRecOn with
  | ind n inductionHypothesis =>
      rcases Nat.lt_or_ge n 10 with short | long
      · have digits : ∀ digit < 10, 0 < digit → [Nat.digitChar digit].head? ≠ some '0' := by
          decide
        rw [Nat.toDigits_of_lt_base short]
        exact digits n short positive
      · have shorter := inductionHypothesis (n / 10) (by omega) (by omega)
        rw [Nat.toDigits_of_base_le (by decide) long]
        obtain ⟨first, rest, digits⟩ :=
          List.exists_cons_of_ne_nil (@Nat.toDigits_ne_nil (n / 10) 10)
        rw [digits] at shorter ⊢
        exact shorter

theorem unpadded_toDigits (n : Nat) : Unpadded (Nat.toDigits 10 n) := by
  rcases Nat.eq_zero_or_pos n with rfl | positive
  · rintro rest digits
    exact .inl (List.cons.inj digits).2.symm
  · exact unpadded_of_head (head?_toDigits positive)

theorem magnitude_toDigits (n : Nat) : Magnitude (Nat.toDigits 10 n) n 0 := by
  have magnitude := Magnitude.intro (.whole Nat.toDigits_ne_nil (denotes_toDigits n))
    (unpadded_toDigits n) .absent
  rwa [List.append_nil] at magnitude

/-- A plain decimal with a fraction. -/
theorem magnitude_pointed {whole fraction : List Char} {n : Nat} (someWhole : whole ≠ [])
    (someFraction : fraction ≠ []) (other : whole.head? ≠ some '0')
    (denotes : Numeral.Denotes (whole ++ fraction) n) {power : List Char} {exponent : Int}
    (raised : Power power exponent) :
    Magnitude (whole ++ '.' :: fraction ++ power) n (exponent - fraction.length) := by
  apply Magnitude.intro (.pointed someWhole someFraction denotes) (unpadded_of_head ?_) raised
  obtain ⟨c, rest, rfl⟩ := List.exists_cons_of_ne_nil someWhole
  exact other

/-- A whole number gets a fraction of zero. -/
theorem magnitude_marked {digits : Nat} (positive : 0 < digits) (zeros : Nat) :
    Magnitude (Decimal.plain ⟨digits, zeros⟩ ++ ".0".toList) (digits * 10 ^ (zeros + 1))
      (0 - 1) := by
  have many : 0 < digits * 10 ^ zeros := Nat.mul_pos positive (Nat.pow_pos (by decide))
  have longer : Numeral.ofNat (digits * 10 ^ zeros) ++ ['0'] =
      Numeral.ofNat (digits * 10 ^ (zeros + 1)) := by
    have moved := Decimal.toDigits_mul_pow many 1
    rw [mul_assoc, ← pow_add] at moved
    exact moved.symm
  have denotes : Numeral.Denotes (Numeral.ofNat (digits * 10 ^ zeros) ++ ['0'])
      (digits * 10 ^ (zeros + 1)) := by
    rw [longer]
    exact denotes_toDigits _
  have magnitude := magnitude_pointed (Numeral.ofNat_ne_nil _) (List.cons_ne_nil _ _)
    (head?_toDigits many) denotes .absent
  rw [Decimal.plain_ofNat positive]
  rwa [List.append_nil] at magnitude

theorem unpadded_plain {digits : Nat} (positive : 0 < digits) (n : Nat) :
    Unpadded (Decimal.plain ⟨digits, .negSucc n⟩) := by
  have first := head?_toDigits positive
  unfold Decimal.plain
  dsimp only
  split_ifs with inside
  · apply unpadded_of_head
    have some : 0 < (Nat.toDigits 10 digits).length - (n + 1) := by omega
    obtain ⟨c, rest, row⟩ := List.exists_cons_of_ne_nil (@Nat.toDigits_ne_nil digits 10)
    obtain ⟨k, front⟩ := Nat.exists_eq_succ_of_ne_zero some.ne'
    rw [front, row]
    rw [row] at first
    exact first
  · rintro rest same
    exact .inr ⟨_, (List.cons.inj same).2.symm⟩

theorem exists_magnitude_plain {d : Decimal} (positive : 0 < d.digits) :
    ∃ n exponent,
      Magnitude (d.plain ++ if 0 ≤ d.exponent then ".0".toList else []) n exponent ∧
        (n : ℝ) * 10 ^ exponent = d.toReal := by
  obtain ⟨digits, exponent⟩ := d
  cases exponent with
  | ofNat zeros =>
      refine ⟨_, _, magnitude_marked positive zeros, ?_⟩
      have power : (10 : ℝ) ^ Int.ofNat zeros = 10 ^ zeros := zpow_natCast 10 zeros
      rw [Decimal.toReal_eq, power, zero_sub, zpow_neg_one, pow_succ]
      push_cast
      ring
  | negSucc n =>
      have magnitude := Magnitude.intro (Decimal.plainMagnitude_negSucc digits n)
        (unpadded_plain positive n) .absent
      refine ⟨digits, _, magnitude, ?_⟩
      rw [zero_sub, Decimal.toReal_eq]
      rfl

theorem toList_toString (power : Int) : (toString power).toList = Numeral.ofInt power := by
  cases power with
  | ofNat n => exact Nat.toList_repr
  | negSucc n => exact (String.toList_append ..).trans (congrArg _ Nat.toList_repr)

/-- The power of ten behind a decimal with one digit in front of its point. -/
theorem power_scientific (plusSign : Bool) (power : Int) :
    Power ('e' :: ((if plusSign && 0 ≤ power then ['+'] else []) ++ (toString power).toList))
      power := by
  rw [toList_toString]
  cases power with
  | negSucc n =>
      have unsigned : (plusSign && decide (0 ≤ Int.negSucc n)) = false := by simp
      rw [unsigned]
      exact .raised (.inl rfl) (.minus _) (Numeral.ofNat_ne_nil (n + 1)) (denotes_toDigits (n + 1))
  | ofNat n =>
      have signed : (plusSign && decide (0 ≤ Int.ofNat n)) = plusSign := by simp
      rw [signed]
      cases plusSign with
      | true => exact .raised (.inl rfl) (.plus _) (Numeral.ofNat_ne_nil n) (denotes_toDigits n)
      | false => exact .raised (.inl rfl) (.bare _) (Numeral.ofNat_ne_nil n) (denotes_toDigits n)

theorem exists_magnitude_scientific {d : Decimal} (positive : 0 < d.digits) (plusSign : Bool) :
    ∃ n exponent, Magnitude (d.scientific plusSign) n exponent ∧
      (n : ℝ) * 10 ^ exponent = d.toReal := by
  have raised := power_scientific plusSign (d.exponent + (Nat.toDigits 10 d.digits).length - 1)
  have denotes := denotes_toDigits d.digits
  have first := head?_toDigits positive
  refine ⟨d.digits, d.exponent, ?_, (Decimal.toReal_eq d).symm⟩
  unfold Decimal.scientific
  dsimp only
  obtain ⟨c, rest, row⟩ := List.exists_cons_of_ne_nil (@Nat.toDigits_ne_nil d.digits 10)
  rw [row] at raised denotes first ⊢
  cases rest with
  | nil =>
      have magnitude := Magnitude.intro (.whole (List.cons_ne_nil c []) denotes)
        (unpadded_of_head first) raised
      simpa using magnitude
  | cons next others =>
      have magnitude := magnitude_pointed (List.cons_ne_nil c []) (List.cons_ne_nil next others)
        first denotes raised
      have places : d.exponent + ((c :: next :: others).length : Int) - 1 -
          ((next :: others).length : Int) = d.exponent := by
        have longer : (c :: next :: others).length = (next :: others).length + 1 := rfl
        rw [longer, Nat.cast_succ]
        ring
      rw [places] at magnitude
      exact magnitude

theorem roundsTo_zero {x : Float} {negative : Bool} {e : Int}
    (value : Value.ofFloat x = .finite negative 0 e) : RoundsTo 0 x := by
  have zero : (Value.ofFloat x).toReal = 0 := by simp [value, Value.toReal]
  have inRange : (2 : ℝ) ^ 970 < 2 ^ 1024 := pow_lt_pow_right₀ one_lt_two (by decide)
  refine ⟨by simpa using inRange, Value.isFinite_iff.mpr ⟨_, _, _, value⟩, fun y _ => ?_,
    fun y _ other same => ?_⟩
  · rw [zero, sub_zero, abs_zero]
    exact abs_nonneg _
  · rw [zero, sub_zero, abs_zero, zero_sub, abs_neg, eq_comm, abs_eq_zero] at same
    exact absurd (same.trans zero.symm) other

theorem exists_magnitude_json {x : Float} {negative : Bool} {m : Nat} {e : Int}
    (value : Value.ofFloat x = .finite negative m e) :
    ∃ n exponent, Magnitude (Style.json.magnitude m e) n exponent ∧
      RoundsTo ((if negative then -(n : ℝ) else n) * 10 ^ exponent) x := by
  rcases Nat.eq_zero_or_pos m with rfl | positive
  · have text : Style.json.magnitude 0 e = ['0'] ++ '.' :: ['0'] ++ [] := rfl
    have denotes : Numeral.Denotes (['0'] ++ ['0']) 0 := by decide
    have unpadded : Unpadded (['0'] ++ '.' :: ['0']) := by
      intro rest same
      exact .inr ⟨_, (List.cons.inj same).2.symm⟩
    rw [text]
    refine ⟨0, _, .intro (.pointed (List.cons_ne_nil _ _) (List.cons_ne_nil _ _) denotes) unpadded
      .absent, ?_⟩
    simpa using roundsTo_zero value
  · have fits := (Format.regular_decode value).fits
    have some := Decimal.digits_shortest_pos fits positive .even e
    have rounds := (Decimal.covers_shortest fits positive .even e).roundsTo positive value
    have spelt : ∃ n exponent, Magnitude (Style.json.magnitude m e) n exponent ∧
        (n : ℝ) * 10 ^ exponent = (Decimal.shortest .even m e).toReal := by
      unfold Style.magnitude
      rw [if_neg positive.ne']
      dsimp only [Style.json]
      split
      · simpa using exists_magnitude_plain some
      · exact exists_magnitude_scientific some true
    obtain ⟨n, exponent, magnitude, same⟩ := spelt
    refine ⟨n, exponent, magnitude, ?_⟩
    rw [← same] at rounds
    cases negative with
    | false => exact rounds
    | true => rwa [if_pos rfl, neg_mul]

theorem spells_number (spaced : Bool) (x : Float) :
    Spells spaced (numberText x).toList (.number x) := by
  unfold numberText
  split
  next finite =>
    obtain ⟨negative, m, e, value⟩ := Value.isFinite_iff.mp finite
    obtain ⟨n, exponent, magnitude, rounds⟩ := exists_magnitude_json value
    rw [String.toList_ofList, Style.write, value]
    dsimp only
    cases negative with
    | false => exact .number value (.bare magnitude) rounds
    | true => exact .number value (.minus magnitude) rounds
  next notFinite => exact .missing (Bool.eq_false_iff.mpr notFinite)

theorem spells_whole (spaced : Bool) (value : Int) :
    Spells spaced (Numeral.ofInt value) (.whole value) := by
  cases value with
  | ofNat n => exact @Spells.whole spaced _ false n (.bare (magnitude_toDigits n))
  | negSucc n => exact @Spells.whole spaced _ true (n + 1) (.minus (magnitude_toDigits (n + 1)))

/-! ### Strings -/

theorem characters_escapeChar (c : Char) {text rest : List Char}
    (others : Characters text rest) : Characters (escapeChar c ++ text) (c :: rest) := by
  unfold escapeChar
  split_ifs with quote backslash feed back tab bell page control
  · subst quote
    exact .escape (by decide) others
  · subst backslash
    exact .escape (by decide) others
  · subst feed
    exact .escape (by decide) others
  · subst back
    exact .escape (by decide) others
  · subst tab
    exact .escape (by decide) others
  · obtain rfl : c = '\x08' := Char.toNat_inj.mp bell
    exact .escape (by decide) others
  · obtain rfl : c = '\x0c' := Char.toNat_inj.mp page
    exact .escape (by decide) others
  · have digits : ∀ n < 0x20, ['0', '0', Nat.digitChar (n / 16), Nat.digitChar (n % 16)].mapM
        Markup.hexValue? = some [0, 0, n / 16, n % 16] := by decide
    refine .code rfl (digits c.toNat control) ?_ others
    simp only [List.foldl_cons, List.foldl_nil]
    omega
  · exact .plain (by omega) ⟨quote, backslash⟩ others

theorem characters_escaped (text : List Char) : Characters (text.flatMap escapeChar) text := by
  induction text with
  | nil => exact .none
  | cons c rest inductionHypothesis => exact characters_escapeChar c inductionHypothesis

theorem toList_quote (text : String) :
    (quote text).toList = '"' :: (text.toList.flatMap escapeChar ++ ['"']) :=
  String.toList_ofList

/-! ### Values -/

def Format.spaced : Format → Bool
  | .compact => false
  | .pretty _ => true

@[simp]
theorem Format.spaced_deeper (format : Format) : format.deeper.spaced = format.spaced := by
  cases format <;> rfl

theorem blank_nil (spaced : Bool) : Blank spaced [] := nofun

theorem Format.blank_lineBreak (format : Format) : Blank format.spaced format.lineBreak.toList := by
  cases format with
  | compact => exact blank_nil false
  | pretty indent =>
      intro c inside
      rw [lineBreak, String.toList_append, List.mem_append, String.toList_ofList] at inside
      rcases inside with feed | blank
      · exact ⟨rfl, by simp_all⟩
      · rw [String.toList_ofList] at blank
        exact ⟨rfl, by simp [List.eq_of_mem_replicate blank]⟩

theorem Format.exists_colon (format : Format) :
    ∃ back, format.colon.toList = ':' :: back ∧ Blank format.spaced back := by
  cases format with
  | compact => exact ⟨[], rfl, blank_nil false⟩
  | pretty _ => exact ⟨[' '], by simp [colon], fun c inside => ⟨rfl, by simp_all⟩⟩

theorem row_intercalate {spaced : Bool} {separator : String} {after : List Char}
    (front : Blank spaced separator.toList) (back : Blank spaced after) {member : String}
    {part : Option String × Json} (first : Part spaced member.toList part) {members : List String}
    {parts : List (Option String × Json)}
    (others : List.Forall₂ (fun member part => Part spaced member.toList part) members parts) :
    Row spaced (separator.toList ++
      (String.intercalate ("," ++ separator) (member :: members)).toList ++ after)
      (part :: parts) := by
  induction others generalizing member part with
  | nil =>
      rw [String.intercalate_singleton]
      exact .last front first back
  | @cons next _ members _ here _ inductionHypothesis =>
      have cut : separator.toList ++
          (String.intercalate ("," ++ separator) (member :: next :: members)).toList ++ after =
          separator.toList ++ member.toList ++ [] ++ ',' :: (separator.toList ++
            (String.intercalate ("," ++ separator) (next :: members)).toList ++ after) := by
        simp [String.intercalate_cons_cons]
      rw [cut]
      exact .cons front first (blank_nil spaced) (inductionHypothesis here)

theorem Format.within_enclose (format : Format) (opening closing : String) {members : List String}
    {parts : List (Option String × Json)} (each : List.Forall₂
      (fun member part => Part format.deeper.spaced member.toList part) members parts) :
    ∃ inside, (format.enclose opening closing members).toList =
        opening.toList ++ (inside ++ closing.toList) ∧ Within format.spaced inside parts := by
  rw [format.spaced_deeper] at each
  cases each with
  | nil => exact ⟨[], String.toList_append, .none (blank_nil _)⟩
  | cons first others =>
      have front := format.deeper.blank_lineBreak
      rw [format.spaced_deeper] at front
      refine ⟨_, ?_, .some (row_intercalate front format.blank_lineBreak first others)⟩
      simp [enclose, List.append_assoc]

mutual

theorem spells_write (format : Format) (value : Json) :
    Spells format.spaced (value.write format).toList value := by
  cases value with
  | null => exact .null
  | bool value => cases value with
    | false => exact .bool false
    | true => exact .bool true
  | whole value =>
      rw [write, String.toList_ofList]
      exact spells_whole format.spaced value
  | number value =>
      rw [write]
      exact spells_number format.spaced value
  | string value =>
      rw [write, toList_quote]
      exact .string (characters_escaped value.toList)
  | list items =>
      have each := forall₂_writeItems format.deeper items
      obtain ⟨inside, text, within⟩ := format.within_enclose "[" "]" each
      rw [write, text]
      exact .list within
  | record fields =>
      have each := forall₂_writeFields format.deeper fields
      obtain ⟨inside, text, within⟩ := format.within_enclose "\x7b" "\x7d" each
      rw [write, text]
      exact .record within
  | table entries =>
      have each := forall₂_writeFields format.deeper entries
      obtain ⟨inside, text, within⟩ := format.within_enclose "\x7b" "\x7d" each
      rw [write, text]
      exact .table within

theorem forall₂_writeItems (format : Format) (items : List Json) :
    List.Forall₂ (fun member part => Part format.spaced member.toList part)
      (writeItems format items) (items.map (none, ·)) := by
  cases items with
  | nil => exact .nil
  | cons item rest =>
      rw [writeItems]
      exact .cons (.item (spells_write format item)) (forall₂_writeItems format rest)

theorem forall₂_writeFields (format : Format) (fields : List (String × Json)) :
    List.Forall₂ (fun member part => Part format.spaced member.toList part)
      (writeFields format fields) (fields.map fun field => (some field.1, field.2)) := by
  cases fields with
  | nil => exact .nil
  | cons field rest =>
      obtain ⟨name, value⟩ := field
      obtain ⟨back, colon, blank⟩ := format.exists_colon
      have here := Part.member (characters_escaped name.toList) (blank_nil _) blank
        (spells_write format value)
      have text : (quote name ++ format.colon ++ value.write format).toList =
          '"' :: (name.toList.flatMap escapeChar ++
            '"' :: ([] ++ ':' :: (back ++ (value.write format).toList))) := by
        simp [toList_quote, colon]
      rw [writeFields]
      refine .cons ?_ (forall₂_writeFields format rest)
      rw [text]
      exact here

end

end Chronogram.Json
