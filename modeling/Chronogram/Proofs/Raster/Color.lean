import Chronogram.Proofs.Text.LetterCase
import Chronogram.Raster.Canvas

/-!
The texts of colours.

A text is a colour if it is one of three names, or a number sign with as many hexadecimal digits as
there are channels, or twice as many. Blanks around it and the case of its letters do not matter. A
background that is no colour is refused whatever the document is.
-/

namespace Chronogram

open Markup Text

/-! ### Digits -/

theorem hexValue?_eq_none {c : Char} (beyond : 128 ≤ c.toNat) : hexValue? c = none := by
  unfold hexValue?
  rw [if_neg, if_neg, if_neg]
  · rintro ⟨-, last⟩
    have small : c.toNat ≤ 70 := last
    omega
  · rintro ⟨-, last⟩
    have small : c.toNat ≤ 102 := last
    omega
  · intro digit
    have small : c.toNat ≤ 57 := (Char.isDigit_iff_toNat.mp digit).2
    omega

theorem hexValue?_digitChar : ∀ digit < 16, hexValue? (Nat.digitChar digit) = some digit := by
  decide

theorem digitChar_of_hexValue? {c : Char} (lower : c.toLower = c) {digit : Nat}
    (value : hexValue? c = some digit) : digit < 16 ∧ c = Nat.digitChar digit := by
  rcases Nat.lt_or_ge c.toNat 128 with ascii | beyond
  · have checked := forall_ascii (P := fun c => c.toLower = c → ∀ digit ∈ hexValue? c,
      digit < 16 ∧ c = Nat.digitChar digit) (by decide) ascii
    exact checked lower digit value
  · rw [hexValue?_eq_none beyond] at value
    cases value

theorem mapM_hexValue?_eq_some_iff {row : List Char} (lower : ∀ c ∈ row, c.toLower = c)
    {digits : List Nat} : row.mapM hexValue? = some digits ↔
      (∀ digit ∈ digits, digit < 16) ∧ row = digits.map Nat.digitChar := by
  induction row generalizing digits with
  | nil =>
      cases digits <;> simp
  | cons c rest inductionHypothesis =>
      obtain ⟨lowerFirst, lowerRest⟩ := List.forall_mem_cons.mp lower
      simp only [List.mapM_cons, Option.bind_eq_bind, Option.bind_eq_some_iff, Option.pure_def,
        Option.some.injEq, inductionHypothesis lowerRest]
      constructor
      · rintro ⟨first, value, others, ⟨hexadecimal, rfl⟩, rfl⟩
        obtain ⟨small, rfl⟩ := digitChar_of_hexValue? lowerFirst value
        exact ⟨List.forall_mem_cons.mpr ⟨small, hexadecimal⟩, rfl⟩
      · rintro ⟨hexadecimal, same⟩
        cases digits with
        | nil => cases same
        | cons first others =>
            obtain ⟨small, hexadecimal⟩ := List.forall_mem_cons.mp hexadecimal
            obtain ⟨rfl, rfl⟩ := List.cons.inj same
            exact ⟨first, hexValue?_digitChar first small, others, ⟨hexadecimal, rfl⟩, rfl⟩

namespace Raster

namespace Color

/-- The channels that pairs of digits stand for: red, green, blue and alpha. Without the last pair a
colour hides what is behind it. -/
inductive Pairs : List Nat → Color → Prop where
  | three (r r' g g' b b' : Nat) :
      Pairs [r, r', g, g', b, b'] ⟨16 * r + r', 16 * g + g', 16 * b + b', 255⟩
  | four (r r' g g' b b' a a' : Nat) :
      Pairs [r, r', g, g', b, b', a, a'] ⟨16 * r + r', 16 * g + g', 16 * b + b', 16 * a + a'⟩

def named : List (String × Color) :=
  [("transparent", ⟨0, 0, 0, 0⟩), ("white", ⟨255, 255, 255, 255⟩), ("black", ⟨0, 0, 0, 255⟩)]

/-- The texts of colours, in lower case and without blanks around them. A digit that stands alone
for its channel counts twice. -/
inductive Spells : List Char → Color → Prop where
  | name (name : String) (color : Color) (listed : (name, color) ∈ named) :
      Spells name.toList color
  | paired (digits : List Nat) (color : Color) (hexadecimal : ∀ digit ∈ digits, digit < 16)
      (pairs : Pairs digits color) : Spells ('#' :: digits.map Nat.digitChar) color
  | single (digits : List Nat) (color : Color) (hexadecimal : ∀ digit ∈ digits, digit < 16)
      (pairs : Pairs (digits.flatMap fun digit => [digit, digit]) color) :
      Spells ('#' :: digits.map Nat.digitChar) color

/-- Three or four digits are doubled to as many pairs. -/
theorem Pairs.of_doubled {digits : List Nat} {color : Color}
    (pairs : Pairs (digits.flatMap fun digit => [digit, digit]) color) :
    (∃ r g b, digits = [r, g, b]) ∨ ∃ r g b a, digits = [r, g, b, a] := by
  have count : (digits.flatMap fun digit => [digit, digit]).length = 2 * digits.length := by
    simp [List.length_flatMap, Nat.mul_comm]
  generalize (digits.flatMap fun digit => [digit, digit]) = row at pairs count
  cases pairs with
  | three =>
      have three : digits.length = 3 := by
        simp only [List.length_cons, List.length_nil] at count
        omega
      exact .inl (List.length_eq_three.mp three)
  | four =>
      have four : digits.length = 4 := by
        simp only [List.length_cons, List.length_nil] at count
        omega
      match digits, four with
      | [r, g, b, a], _ => exact .inr ⟨r, g, b, a, rfl⟩

theorem ofDigits?_eq_some_iff {digits : List Nat} {color : Color} : ofDigits? digits = some color ↔
    Pairs digits color ∨ Pairs (digits.flatMap fun digit => [digit, digit]) color := by
  constructor
  · intro made
    unfold ofDigits? at made
    split at made
    · obtain rfl := Option.some.inj made
      exact .inr (.three ..)
    · obtain rfl := Option.some.inj made
      exact .inr (.four ..)
    · obtain rfl := Option.some.inj made
      exact .inl (.three ..)
    · obtain rfl := Option.some.inj made
      exact .inl (.four ..)
    · cases made
  · rintro (pairs | pairs)
    · cases pairs <;> rfl
    · rcases pairs.of_doubled with ⟨r, g, b, rfl⟩ | ⟨r, g, b, a, rfl⟩ <;> cases pairs <;> rfl

theorem spells_digits_iff {row : List Char} (lower : ∀ c ∈ row, c.toLower = c) {color : Color} :
    (row.mapM hexValue?).bind ofDigits? = some color ↔ Spells ('#' :: row) color := by
  simp only [Option.bind_eq_some_iff, mapM_hexValue?_eq_some_iff lower, ofDigits?_eq_some_iff]
  constructor
  · rintro ⟨digits, ⟨hexadecimal, rfl⟩, pairs | pairs⟩
    · exact .paired digits color hexadecimal pairs
    · exact .single digits color hexadecimal pairs
  · intro spells
    generalize spelt : '#' :: row = text at spells
    cases spells with
    | name name color listed =>
        have unmarked : ∀ entry ∈ named, entry.1.toList.head? ≠ some '#' := by decide
        exact absurd (congrArg List.head? spelt).symm (unmarked _ listed)
    | paired digits color hexadecimal pairs =>
        exact ⟨digits, ⟨hexadecimal, (List.cons.inj spelt).2⟩, .inl pairs⟩
    | single digits color hexadecimal pairs =>
        exact ⟨digits, ⟨hexadecimal, (List.cons.inj spelt).2⟩, .inr pairs⟩

theorem spells_unmarked_iff {text : List Char} (unmarked : text.head? ≠ some '#') {color : Color} :
    Spells text color ↔ ∃ name, text = name.toList ∧ (name, color) ∈ named := by
  constructor
  · intro spells
    cases spells with
    | name name color listed => exact ⟨name, rfl, listed⟩
    | paired | single => exact absurd rfl unmarked
  · rintro ⟨name, rfl, listed⟩
    exact .name name color listed

/-- A text is read as the colour that it spells when blanks and letter case are left aside. -/
theorem read?_eq_some_iff {text : List Char} {color : Color} :
    read? text = some color ↔ Spells (asciiLower (trim text)) color := by
  have lower : ∀ c ∈ asciiLower (trim text), c.toLower = c := fun c => toLower_of_mem_asciiLower
  unfold read?
  dsimp only
  generalize asciiLower (trim text) = name at lower
  by_cases marked : name.head? = some '#'
  · obtain ⟨row, rfl⟩ := List.head?_eq_some_iff.mp marked
    simpa using spells_digits_iff (List.forall_mem_cons.mp lower).2
  · rw [spells_unmarked_iff marked]
    constructor
    · intro read
      split_ifs at read with isTransparent isWhite isBlack
      · obtain rfl := Option.some.inj read
        exact ⟨_, isTransparent, .head _⟩
      · obtain rfl := Option.some.inj read
        exact ⟨_, isWhite, .tail _ (.head _)⟩
      · obtain rfl := Option.some.inj read
        exact ⟨_, isBlack, .tail _ (.tail _ (.head _))⟩
      · split at read
        · exact absurd rfl marked
        · cases read
    · rintro ⟨name, rfl, listed⟩
      simp only [named, List.mem_cons, Prod.mk.injEq, List.not_mem_nil, or_false] at listed
      rcases listed with ⟨rfl, rfl⟩ | ⟨rfl, rfl⟩ | ⟨rfl, rfl⟩ <;> rfl

/-- Neither the blanks around a text nor the case of its letters matter. -/
theorem read?_append {front text other back : List Char}
    (blankFront : ∀ c ∈ front, isBlank c = true) (blankBack : ∀ c ∈ back, isBlank c = true)
    (sameLetters : asciiLower other = asciiLower text) :
    read? (front ++ other ++ back) = read? text := by
  have name : asciiLower (trim (front ++ other ++ back)) = asciiLower (trim text) := by
    rw [trim_append blankFront blankBack, ← trim_asciiLower, sameLetters, trim_asciiLower]
  rw [read?, read?, name]

/-- Digits in lower case with no blanks around them are read as they stand. -/
theorem read?_digits {digits : List Nat} (hexadecimal : ∀ digit ∈ digits, digit < 16) :
    read? ('#' :: digits.map Nat.digitChar) = ofDigits? digits := by
  have plain : ∀ c ∈ '#' :: digits.map Nat.digitChar, isBlank c = false ∧ c.toLower = c := by
    have digitwise : ∀ digit < 16, isBlank (Nat.digitChar digit) = false ∧
        (Nat.digitChar digit).toLower = Nat.digitChar digit := by decide
    refine List.forall_mem_cons.mpr ⟨by decide, List.forall_mem_map.mpr fun digit inside => ?_⟩
    exact digitwise digit (hexadecimal digit inside)
  have trimmed : trim ('#' :: digits.map Nat.digitChar) = '#' :: digits.map Nat.digitChar :=
    trim_eq_self (fun c first => (plain c (List.mem_of_head? first)).1)
      fun c last => (plain c (List.mem_of_getLast? last)).1
  have lowered : asciiLower ('#' :: digits.map Nat.digitChar) = '#' :: digits.map Nat.digitChar :=
    (List.map_congr_left fun c inside => (plain c inside).2).trans (List.map_id _)
  have values : (digits.map Nat.digitChar).mapM hexValue? = some digits :=
    (mapM_hexValue?_eq_some_iff (List.forall_mem_cons.mp fun c inside => (plain c inside).2).2).mpr
      ⟨hexadecimal, rfl⟩
  rw [read?, trimmed, lowered]
  simp [values]

/-- Three or four digits mean the same as twice as many, each of them doubled. -/
theorem read?_doubled {digits : List Nat} (hexadecimal : ∀ digit ∈ digits, digit < 16)
    (count : digits.length = 3 ∨ digits.length = 4) :
    (read? ('#' :: digits.map Nat.digitChar)).isSome = true ∧
      read? ('#' :: (digits.flatMap fun digit => [digit, digit]).map Nat.digitChar) =
        read? ('#' :: digits.map Nat.digitChar) := by
  have doubled : ∀ digit ∈ digits.flatMap fun digit => [digit, digit], digit < 16 := by
    intro digit inside
    obtain ⟨single, within, same⟩ := List.mem_flatMap.mp inside
    obtain rfl : digit = single := by simpa using same
    exact hexadecimal digit within
  rw [read?_digits hexadecimal, read?_digits doubled]
  rcases count with three | four
  · obtain ⟨r, g, b, rfl⟩ := List.length_eq_three.mp three
    exact ⟨rfl, rfl⟩
  · match digits, four with
    | [r, g, b, a], _ => exact ⟨rfl, rfl⟩

end Color

theorem backgroundOf_of_unread {text : String} (unread : Color.read? text.toList = none) :
    backgroundOf (some text) = .error (.invalidBackground text) := by
  simp only [backgroundOf, unread]

theorem backgroundOf_of_read {text : String} {color : Color}
    (read : Color.read? text.toList = some color) : backgroundOf (some text) = .ok color := by
  simp only [backgroundOf, read]

/-- A background that is a colour is never refused, and it is the background of the canvas. -/
theorem canvas_of_read {scale : Number.Value} {background document : String} {color : Color}
    (read : Color.read? background.toList = some color) :
    (∀ text, canvas ⟨scale, some background⟩ document ≠ .error (.invalidBackground text)) ∧
      ∀ made, canvas ⟨scale, some background⟩ document = .ok made → made.background = color := by
  simp only [canvas, backgroundOf_of_read read, bind, Except.bind]
  split
  · exact ⟨nofun, nofun⟩
  · split
    · exact ⟨nofun, nofun⟩
    · refine ⟨nofun, fun made same => ?_⟩
      obtain rfl := Except.ok.inj same
      rfl

/-- A background that is no colour is refused before the document is looked at. -/
theorem canvas_of_unread {scale : Number.Value} {background : String}
    (unread : Color.read? background.toList = none) (document : String) :
    canvas ⟨scale, some background⟩ document = .error (.invalidBackground background) := by
  simp only [canvas, backgroundOf_of_unread unread, bind, Except.bind]

end Raster

end Chronogram
