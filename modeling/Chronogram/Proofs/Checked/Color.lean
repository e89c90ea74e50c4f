import Chronogram.Proofs.Checked.Trap
import Chronogram.Proofs.Raster.Color

/-!
Reading colours byte by byte.

The digits of a colour are the bytes of its text, which are taken from fixed places once their
number is known. A byte of a longer character counts as a character of its own, but never as a
digit. So to count bytes instead of characters lets nothing else pass, and no place is ever
missing.
-/

namespace Chronogram

open Markup Raster Text

namespace Checked

variable {α β : Type}

def slice (values : List α) (start stop : Nat) : Checked (List α) :=
  if start ≤ stop ∧ stop ≤ values.length then .ok ((values.take stop).drop start)
  else .error (.outOfRange stop values.length)

/-- A computation without traps that may come to nothing. -/
def attempt (found : Option α) : OptionT Checked α :=
  OptionT.mk (.ok found)

theorem lift_ok_bind (value : α) (next : α → OptionT Checked β) :
    (OptionT.lift (.ok value : Checked α) >>= next) = next value :=
  rfl

@[simp]
theorem attempt_bind (found : Option α) (next : α → Option β) :
    (attempt found >>= fun value => attempt (next value)) = attempt (found.bind next) := by
  cases found <;> rfl

@[simp]
theorem pure_eq_attempt (value : α) :
    (pure value : OptionT Checked α) = attempt (some value) :=
  rfl

def bytes (text : List Char) : List UInt8 :=
  text.flatMap String.utf8EncodeChar

def byteDigit? (byte : UInt8) : Option Nat :=
  hexValue? (Char.ofNat byte.toNat)

def singleChannel (row : List UInt8) (position : Nat) : OptionT Checked Nat := do
  let byte ← OptionT.lift (element row position)
  let digit ← attempt (byteDigit? byte)
  return Color.doubled digit

def pairedChannel (row : List UInt8) (position : Nat) : OptionT Checked Nat := do
  let pair ← OptionT.lift (slice row position (position + 2))
  let high ← attempt (pair[0]?.bind byteDigit?)
  let low ← attempt (pair[1]?.bind byteDigit?)
  return Color.paired high low

def ofBytes (row : List UInt8) : OptionT Checked Color := do
  match row.length with
  | 3 =>
      return ⟨← singleChannel row 0, ← singleChannel row 1, ← singleChannel row 2, 255⟩
  | 4 =>
      return ⟨← singleChannel row 0, ← singleChannel row 1, ← singleChannel row 2,
        ← singleChannel row 3⟩
  | 6 =>
      return ⟨← pairedChannel row 0, ← pairedChannel row 2, ← pairedChannel row 4, 255⟩
  | 8 =>
      return ⟨← pairedChannel row 0, ← pairedChannel row 2, ← pairedChannel row 4,
        ← pairedChannel row 6⟩
  | _ => failure

def color (text : List Char) : OptionT Checked Color :=
  let name := asciiLower (trim text)
  if name = "transparent".toList then return Color.transparent
  else if name = "white".toList then return Color.white
  else if name = "black".toList then return Color.black
  else match name with
    | '#' :: digits => ofBytes (bytes digits)
    | _ => failure

/-! ### Bytes as digits -/

theorem byteDigit?_ofNat {c : Char} (ascii : c.toNat < 128) :
    byteDigit? (UInt8.ofNat c.toNat) = hexValue? c := by
  have small : c.toNat % 256 = c.toNat := Nat.mod_eq_of_lt (by omega)
  rw [byteDigit?, UInt8.toNat_ofNat', small, Char.ofNat_toNat]

theorem byteDigit?_eq_none {byte : UInt8} (beyond : 128 ≤ byte.toNat) : byteDigit? byte = none := by
  have small := byte.toNat_lt
  have valid : byte.toNat.isValidChar := .inl (by omega)
  apply hexValue?_eq_none
  rw [Char.ofNat, dif_pos valid]
  exact beyond

theorem utf8EncodeChar_of_lt {c : Char} (ascii : c.toNat < 128) :
    String.utf8EncodeChar c = [UInt8.ofNat c.toNat] :=
  if_pos (Nat.le_of_lt_succ ascii)

/-- A longer character starts with a byte that is none of the ASCII characters. -/
theorem utf8EncodeChar_of_le {c : Char} (beyond : 128 ≤ c.toNat) :
    ∃ first others, String.utf8EncodeChar c = first :: others ∧ 128 ≤ first.toNat := by
  have long : ¬ c.val.toNat ≤ 127 := Nat.not_le_of_gt beyond
  have scalar : c.val.toNat < 0x110000 := by
    rcases c.valid with low | ⟨-, high⟩
    · exact low.trans (by decide)
    · exact high
  unfold String.utf8EncodeChar
  dsimp only
  rw [if_neg long]
  split_ifs
  · refine ⟨_, _, rfl, ?_⟩
    rw [UInt8.toNat_ofNat']
    omega
  · refine ⟨_, _, rfl, ?_⟩
    rw [UInt8.toNat_ofNat']
    omega
  · refine ⟨_, _, rfl, ?_⟩
    rw [UInt8.toNat_ofNat']
    omega

theorem mapM_byteDigit? (text : List Char) :
    (bytes text).mapM byteDigit? = text.mapM hexValue? := by
  induction text with
  | nil => rfl
  | cons c rest inductionHypothesis =>
      rw [bytes, List.flatMap_cons, ← bytes, List.mapM_append, inductionHypothesis,
        List.mapM_cons]
      rcases Nat.lt_or_ge c.toNat 128 with ascii | beyond
      · rw [utf8EncodeChar_of_lt ascii, List.mapM_cons, byteDigit?_ofNat ascii]
        cases hexValue? c <;> simp
      · obtain ⟨first, others, encoded, high⟩ := utf8EncodeChar_of_le beyond
        rw [encoded, List.mapM_cons, byteDigit?_eq_none high, hexValue?_eq_none beyond]
        rfl

/-! ### Channels -/

theorem slice_of_drop {values : List α} {position : Nat} {first second : α} {rest : List α}
    (here : values.drop position = first :: second :: rest) :
    slice values position (position + 2) = .ok [first, second] := by
  have remaining : values.length - position = rest.length + 2 := by
    rw [← List.length_drop, here]
    rfl
  rw [slice, if_pos (by omega), List.drop_take, here, Nat.add_sub_cancel_left]
  rfl

theorem singleChannel_of_getElem? {row : List UInt8} {position : Nat} (byte : UInt8)
    (here : row[position]? = some byte) :
    singleChannel row position =
      attempt ((byteDigit? byte).bind fun digit => some (Color.doubled digit)) := by
  rw [singleChannel, element_of_getElem? here, lift_ok_bind]
  cases byteDigit? byte <;> rfl

theorem pairedChannel_of_drop {row rest : List UInt8} {position : Nat} (high low : UInt8)
    (here : row.drop position = high :: low :: rest) :
    pairedChannel row position =
      attempt ((byteDigit? high).bind fun h => (byteDigit? low).bind fun l =>
        some (Color.paired h l)) := by
  rw [pairedChannel, slice_of_drop here, lift_ok_bind]
  simp only [List.getElem?_cons_zero, List.getElem?_cons_succ, Option.bind_some]
  cases byteDigit? high <;> cases byteDigit? low <;> rfl

theorem length_of_mapM {f : α → Option β} {values : List α} {answers : List β}
    (all : values.mapM f = some answers) : answers.length = values.length := by
  induction values generalizing answers with
  | nil =>
      obtain rfl := Option.some.inj all
      rfl
  | cons value rest inductionHypothesis =>
      simp only [List.mapM_cons, Option.bind_eq_bind, Option.bind_eq_some_iff,
        Option.pure_def] at all
      obtain ⟨first, -, others, read, same⟩ := all
      obtain rfl := Option.some.inj same
      rw [List.length_cons, List.length_cons, inductionHypothesis read]

theorem ofBytes_eq (row : List UInt8) :
    ofBytes row = attempt ((row.mapM byteDigit?).bind Color.ofDigits?) := by
  unfold ofBytes
  split
  next three =>
    obtain ⟨r, g, b, rfl⟩ := List.length_eq_three.mp three
    rw [singleChannel_of_getElem? r rfl, singleChannel_of_getElem? g rfl,
      singleChannel_of_getElem? b rfl]
    simp [Option.bind_assoc, Color.ofDigits?]
  next four =>
    match row, four with
    | [r, g, b, a], _ =>
        rw [singleChannel_of_getElem? r rfl, singleChannel_of_getElem? g rfl,
          singleChannel_of_getElem? b rfl, singleChannel_of_getElem? a rfl]
        simp [Option.bind_assoc, Color.ofDigits?]
  next six =>
    match row, six with
    | [r, r', g, g', b, b'], _ =>
        rw [pairedChannel_of_drop r r' rfl, pairedChannel_of_drop g g' rfl,
          pairedChannel_of_drop b b' rfl]
        simp [Option.bind_assoc, Color.ofDigits?]
  next eight =>
    match row, eight with
    | [r, r', g, g', b, b', a, a'], _ =>
        rw [pairedChannel_of_drop r r' rfl, pairedChannel_of_drop g g' rfl,
          pairedChannel_of_drop b b' rfl, pairedChannel_of_drop a a' rfl]
        simp [Option.bind_assoc, Color.ofDigits?]
  next notThree notFour notSix notEight =>
    have unmade : (row.mapM byteDigit?).bind Color.ofDigits? = none := by
      refine Option.bind_eq_none_iff.mpr fun digits read => ?_
      have count := length_of_mapM read
      unfold Color.ofDigits?
      split
      · exact absurd count.symm notThree
      · exact absurd count.symm notFour
      · exact absurd count.symm notSix
      · exact absurd count.symm notEight
      · rfl
    rw [unmade]
    rfl

theorem color_eq (text : List Char) : (color text).run = .ok (Color.read? text) := by
  unfold color Color.read?
  dsimp only
  generalize asciiLower (trim text) = name
  split_ifs
  · rfl
  · rfl
  · rfl
  · cases name with
    | nil => rfl
    | cons c digits =>
        by_cases marked : c = '#'
        · subst marked
          change (ofBytes (bytes digits)).run = .ok ((digits.mapM hexValue?).bind Color.ofDigits?)
          rw [ofBytes_eq, mapM_byteDigit?]
          rfl
        · simp only [marked, List.cons.injEq, false_and, imp_self, implies_true]
          rfl

/-- A character of two bytes and a digit have three bytes, but they are no colour. -/
example : (bytes "é1".toList).length = 3 ∧ Color.read? "#é1".toList = none := by
  decide

end Checked

/-- A text is read as the colour that it spells, and as no other. Blanks around it, the case of its
letters and digits written twice make no difference, and the bytes can be taken from their places
whatever the text is. An image is refused for its background exactly if that is no colour. -/
theorem colors_are_read_exactly (text : List Char) :
    (∀ color, Color.read? text = some color ↔ Color.Spells (asciiLower (trim text)) color) ∧
      (∀ front other back, (∀ c ∈ front, isBlank c = true) → (∀ c ∈ back, isBlank c = true) →
        asciiLower other = asciiLower text →
          Color.read? (front ++ other ++ back) = Color.read? text) ∧
      (∀ digits : List Nat, (∀ digit ∈ digits, digit < 16) →
        digits.length = 3 ∨ digits.length = 4 → text = '#' :: digits.map Nat.digitChar →
          (Color.read? text).isSome = true ∧
            Color.read? ('#' :: (digits.flatMap fun digit => [digit, digit]).map Nat.digitChar) =
              Color.read? text) ∧
      (Checked.color text).run = .ok (Color.read? text) ∧
      ∀ scale document,
        (Color.read? text = none →
          canvas ⟨scale, some (String.ofList text)⟩ document =
            .error (.invalidBackground (String.ofList text))) ∧
        ∀ color, Color.read? text = some color →
          (∀ refused, canvas ⟨scale, some (String.ofList text)⟩ document ≠
            .error (.invalidBackground refused)) ∧
          ∀ made, canvas ⟨scale, some (String.ofList text)⟩ document = .ok made →
            made.background = color := by
  refine ⟨fun color => Color.read?_eq_some_iff,
    fun front other back blankFront blankBack sameLetters =>
      Color.read?_append blankFront blankBack sameLetters,
    ?doubled, Checked.color_eq text, fun scale document => ⟨?unread, ?read⟩⟩
  case doubled =>
    rintro digits hexadecimal count rfl
    exact Color.read?_doubled hexadecimal count
  case unread =>
    intro unread
    exact canvas_of_unread (by rwa [String.toList_ofList]) document
  case read =>
    intro color read
    exact canvas_of_read (by rwa [String.toList_ofList])

end Chronogram
