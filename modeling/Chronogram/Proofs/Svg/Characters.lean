import Chronogram.Proofs.Svg.Lexeme
import Chronogram.Proofs.Text.Numeral
import Chronogram.Svg.Identifier

/-!
The characters of numbers and identifiers.

A number is written with digits, minus signs and points, an identifier with letters, digits, dashes
and underscores. None of these characters is reserved, so numbers and identifiers can stand in
values and in character data as they are.
-/

namespace Chronogram.Svg

open Number Text

/-- A text without reserved characters. -/
def Unreserved (text : List Char) : Prop :=
  ∀ c ∈ text, Markup.IsPlain c ∧ c ≠ '&'

instance (text : List Char) : Decidable (Unreserved text) :=
  List.decidableBAll _ text

theorem Unreserved.append {first second : List Char} (unreserved : Unreserved first)
    (unreserved' : Unreserved second) : Unreserved (first ++ second) := by
  intro c membership
  rcases List.mem_append.mp membership with inFirst | inSecond
  · exact unreserved c inFirst
  · exact unreserved' c inSecond

theorem Unreserved.appendText {first second : String} (unreserved : Unreserved first.toList)
    (unreserved' : Unreserved second.toList) : Unreserved (first ++ second).toList := by
  rw [String.toList_append]
  exact unreserved.append unreserved'

theorem Unreserved.safe {text : List Char} (unreserved : Unreserved text) : Markup.Safe text :=
  Markup.safe_of_forall (fun c membership => (unreserved c membership).1)
    fun membership => (unreserved '&' membership).2 rfl

theorem Unreserved.isValueChar {text : List Char} (unreserved : Unreserved text) :
    ∀ c ∈ text, IsValueChar c := by
  intro c membership
  obtain ⟨⟨less, -, quote, -⟩, ampersand⟩ := unreserved c membership
  exact ⟨quote, less, ampersand⟩

/-! ### Numbers and identifiers -/

/-- A character that numbers are written with. -/
def IsNumberChar (c : Char) : Prop :=
  c.isDigit = true ∨ c = '-' ∨ c = '.'

theorem isNumberChar_of_mem_plain {d : Decimal} {c : Char} (membership : c ∈ d.plain) :
    IsNumberChar c := by
  have digit : ∀ {c}, c ∈ Nat.toDigits 10 d.digits → IsNumberChar c := fun membership =>
    .inl (Nat.isDigit_of_mem_toDigits (by decide) (by decide) membership)
  have zero : ∀ {c count}, c ∈ List.replicate count '0' → IsNumberChar c := by
    intro c count membership
    rw [(List.mem_replicate.mp membership).2]
    exact .inl (by decide)
  unfold Decimal.plain at membership
  cases exponent : d.exponent with
  | ofNat zeros =>
      simp only [exponent, List.mem_append] at membership
      rcases membership with inDigits | inZeros
      · exact digit inDigits
      · exact zero inZeros
  | negSucc n =>
      simp only [exponent] at membership
      by_cases pointInside : n + 1 < (Nat.toDigits 10 d.digits).length
      · simp only [pointInside, ↓reduceIte, List.mem_append, List.mem_cons] at membership
        rcases membership with front | rfl | back
        · exact digit (List.mem_of_mem_take front)
        · exact .inr (.inr rfl)
        · exact digit (List.mem_of_mem_drop back)
      · simp only [pointInside, ↓reduceIte, List.mem_cons, List.mem_append] at membership
        rcases membership with rfl | rfl | inZeros | inDigits
        · exact .inl (by decide)
        · exact .inr (.inr rfl)
        · exact zero inZeros
        · exact digit inDigits

theorem isNumberChar_of_mem_magnitude {mantissa : Nat} {exponent : Int} {c : Char}
    (membership : c ∈ Style.display.magnitude mantissa exponent) : IsNumberChar c := by
  unfold Style.magnitude at membership
  by_cases zero : mantissa = 0
  · simp only [zero, ↓reduceIte, Style.display, Bool.false_eq_true, List.mem_singleton] at membership
    rw [membership]
    exact .inl (by decide)
  · simp only [zero, ↓reduceIte, Style.display, Bool.false_and, Bool.false_eq_true,
      List.append_nil] at membership
    exact isNumberChar_of_mem_plain membership

theorem isNumberChar_of_mem_signedWhole {negative : Bool} {whole : Nat} {c : Char}
    (membership : c ∈ signedWhole negative whole) : IsNumberChar c := by
  unfold signedWhole at membership
  split at membership
  · rcases List.mem_cons.mp membership with rfl | inDigits
    · exact .inr (.inl rfl)
    · exact .inl (Numeral.isDigit_of_mem_ofNat inDigits)
  · exact .inl (Numeral.isDigit_of_mem_ofNat membership)

theorem isNumberChar_of_mem_finiteText {negative : Bool} {mantissa : Nat} {exponent : Int}
    {c : Char} (membership : c ∈ finiteText negative mantissa exponent) : IsNumberChar c := by
  have plain : ∀ {c}, c ∈ (if negative then ['-'] else []) ++
      Style.display.magnitude mantissa exponent → IsNumberChar c := by
    intro c membership
    rcases List.mem_append.mp membership with sign | digits
    · cases negative with
      | false => simp at sign
      | true => exact .inr (.inl (List.mem_singleton.mp sign))
    · exact isNumberChar_of_mem_magnitude digits
  unfold finiteText at membership
  cases exponent with
  | ofNat _ => exact plain membership
  | negSucc n =>
      simp only at membership
      split at membership
      · exact isNumberChar_of_mem_signedWhole membership
      · exact plain membership

/-- Whatever a number is, it is written with digits, minus signs and points. -/
theorem isNumberChar_of_mem_numberText {x : Float} {c : Char} (membership : c ∈ numberText x) :
    IsNumberChar c := by
  have zero : IsNumberChar '0' := .inl (by decide)
  unfold numberText at membership
  split at membership
  · split at membership
    · rwa [List.mem_singleton.mp membership]
    · exact isNumberChar_of_mem_finiteText membership
  · rwa [List.mem_singleton.mp membership]

theorem IsNumberChar.unreserved {c : Char} (number : IsNumberChar c) :
    Markup.IsPlain c ∧ c ≠ '&' := by
  rcases number with digit | rfl | rfl
  · refine ⟨⟨?_, ?_, ?_, ?_⟩, ?_⟩ <;>
      · rintro rfl
        exact absurd digit (by decide)
  · decide
  · decide

theorem unreserved_numberText (x : Float) : Unreserved (numberText x) :=
  fun _ membership => (isNumberChar_of_mem_numberText membership).unreserved

namespace Identifier

theorem mem_of_mem_mergePairs {text : List Char} {c : Char} (membership : c ∈ mergePairs text) :
    c ∈ text := by
  fun_induction mergePairs text with
  | case1 rest inductionHypothesis =>
      rcases List.mem_cons.mp membership with rfl | behind
      · exact List.mem_cons_self
      · exact List.mem_cons_of_mem _ (List.mem_cons_of_mem _ (inductionHypothesis behind))
  | case2 first rest _ inductionHypothesis =>
      rcases List.mem_cons.mp membership with rfl | behind
      · exact List.mem_cons_self
      · exact List.mem_cons_of_mem _ (inductionHypothesis behind)
  | case3 => exact membership

theorem mem_of_mem_collapse {text : List Char} {c : Char} (membership : c ∈ collapse text) :
    c ∈ text := by
  fun_induction collapse text with
  | case1 text _ inductionHypothesis => exact mem_of_mem_mergePairs (inductionHypothesis membership)
  | case2 => exact membership

theorem isKept_of_mem_dashed {raw : List Char} {c : Char} (membership : c ∈ dashed raw) :
    isKept c = true := by
  obtain ⟨before, -, rfl⟩ := List.mem_map.mp membership
  by_cases keeps : isKept before = true
  · rwa [if_pos keeps]
  · rw [if_neg keeps]
    decide

theorem mem_of_mem_trimDashes {text : List Char} {c : Char} (membership : c ∈ trimDashes text) :
    c ∈ text := by
  have kept := List.mem_reverse.mp membership
  have reversed := (List.dropWhile_suffix _).subset kept
  exact (List.dropWhile_suffix _).subset (List.mem_reverse.mp reversed)

theorem isKept_of_mem_ofChars {raw : List Char} {c : Char} (membership : c ∈ ofChars raw) :
    isKept c = true := by
  have kept : ∀ {c}, c ∈ trimDashes (collapse (dashed raw)) → isKept c = true := fun trimmed =>
    isKept_of_mem_dashed (mem_of_mem_collapse (mem_of_mem_trimDashes trimmed))
  unfold ofChars startWithLetter at membership
  split at membership
  · have untitledKept : untitled.all isKept = true := by decide
    exact List.all_eq_true.mp untitledKept c membership
  next first rest same =>
    rw [same] at kept
    split at membership
    · exact kept membership
    · rcases List.mem_cons.mp membership with rfl | membership
      · decide
      rcases List.mem_cons.mp membership with rfl | membership
      · decide
      exact kept membership

theorem unreserved_ofText (raw : String) : Unreserved (ofText raw).toList := by
  intro c membership
  rw [ofText, String.toList_ofList] at membership
  have kept := isKept_of_mem_ofChars membership
  refine ⟨⟨?_, ?_, ?_, ?_⟩, ?_⟩ <;>
    · rintro rfl
      exact absurd kept (by decide)

end Identifier

end Chronogram.Svg
