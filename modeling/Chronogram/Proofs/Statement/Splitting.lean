import Chronogram.Proofs.Statement.Pattern
import Chronogram.Proofs.Text.Quoted
import Chronogram.Proofs.Text.Row

/-!
How texts split along a pattern.

Each form of pattern has one lemma that says which texts have it and into which fields they split.
-/

namespace Chronogram.Pattern

open Text

variable {line : List Char} {fields : Fields}

@[simp]
theorem match_text_iff {expected : List Char} :
    Match (.text expected) line fields ↔ line = expected ∧ fields = [] := by
  constructor
  · rintro ⟨⟩
    exact ⟨rfl, rfl⟩
  · rintro ⟨rfl, rfl⟩
    exact .text

@[simp]
theorem match_one_iff {belongs : Char → Bool} :
    Match (.one belongs) line fields ↔ (∃ c, belongs c = true ∧ line = [c]) ∧ fields = [] := by
  constructor
  · rintro ⟨⟩
    next c inside => exact ⟨⟨c, inside, rfl⟩, rfl⟩
  · rintro ⟨⟨c, inside, rfl⟩, rfl⟩
    exact .one inside

theorem match_seq_iff {first second : Pattern} :
    Match (.seq first second) line fields ↔
      ∃ front rest before after, Match first front before ∧ Match second rest after ∧
        line = front ++ rest ∧ fields = before ++ after := by
  constructor
  · rintro ⟨⟩
    next front rest before after matchedFirst matchedSecond =>
      exact ⟨_, _, _, _, matchedFirst, matchedSecond, rfl, rfl⟩
  · rintro ⟨_, _, _, _, matchedFirst, matchedSecond, rfl, rfl⟩
    exact .seq matchedFirst matchedSecond

theorem match_either_iff {left right : Pattern} :
    Match (.either left right) line fields ↔ Match left line fields ∨ Match right line fields := by
  constructor
  · rintro (_ | _)
    next matched => exact .inl matched
    next matched => exact .inr matched
  · rintro (matched | matched)
    · exact .left matched
    · exact .right matched

theorem match_optional_iff {inner : Pattern} :
    Match (.optional inner) line fields ↔
      line = [] ∧ fields = [] ∨ Match inner line fields := by
  constructor
  · rintro (_ | _)
    · exact .inl ⟨rfl, rfl⟩
    next matched => exact .inr matched
  · rintro (⟨rfl, rfl⟩ | matched)
    · exact .absent
    · exact .present matched

theorem match_field_iff {number : Nat} {inner : Pattern} :
    Match (.field number inner) line fields ↔
      ∃ others, Match inner line others ∧ fields = (number, line) :: others := by
  constructor
  · rintro ⟨⟩
    next others matched => exact ⟨others, matched, rfl⟩
  · rintro ⟨others, matched, rfl⟩
    exact .field matched

@[simp]
theorem match_sequence_nil : Match (sequence []) line fields ↔ line = [] ∧ fields = [] :=
  match_text_iff

theorem match_sequence_cons {piece : Pattern} {pieces : List Pattern} :
    Match (sequence (piece :: pieces)) line fields ↔
      ∃ front rest before after, Match piece front before ∧ Match (sequence pieces) rest after ∧
        line = front ++ rest ∧ fields = before ++ after :=
  match_seq_iff

theorem match_sequence_singleton {piece : Pattern} (matched : Match piece line fields) :
    Match (sequence [piece]) line fields := by
  refine match_sequence_cons.mpr ⟨line, [], fields, [], matched, ?_, by simp, by simp⟩
  exact match_sequence_nil.mpr ⟨rfl, rfl⟩

theorem match_sequence_append {pieces others : List Pattern} :
    Match (sequence (pieces ++ others)) line fields ↔
      ∃ front rest before after, Match (sequence pieces) front before ∧
        Match (sequence others) rest after ∧ line = front ++ rest ∧ fields = before ++ after := by
  induction pieces generalizing line fields with
  | nil =>
      constructor
      · intro matched
        exact ⟨[], line, [], fields, .text, matched, rfl, rfl⟩
      · rintro ⟨_, _, _, _, first, matched, rfl, rfl⟩
        obtain ⟨rfl, rfl⟩ := match_sequence_nil.mp first
        exact matched
  | cons piece pieces inductionHypothesis =>
      simp only [List.cons_append, match_sequence_cons, inductionHypothesis]
      constructor
      · rintro ⟨front, _, _, _, first, ⟨middle, rest, _, _, second, third, rfl, rfl⟩, rfl, rfl⟩
        exact ⟨_, _, _, _, ⟨_, _, _, _, first, second, rfl, rfl⟩, third, by simp, by simp⟩
      · rintro ⟨_, rest, _, _, ⟨front, middle, _, _, first, second, rfl, rfl⟩, third, rfl, rfl⟩
        exact ⟨_, _, _, _, first, ⟨_, _, _, _, second, third, rfl, rfl⟩, by simp, by simp⟩

/-- What holds of nothing and is kept by each further text of a form holds of any number of texts
of that form. -/
theorem Match.manyInduction {inner : Pattern} {motive : List Char → Fields → Prop}
    (none : motive [] [])
    (further : ∀ front rest before after, Match inner front before → motive rest after →
      motive (front ++ rest) (before ++ after))
    (matched : Match (.many inner) line fields) : motive line fields := by
  generalize repeated : Pattern.many inner = pattern at matched
  induction matched with
  | done => exact none
  | more first _ _ inductionHypothesis =>
      cases repeated
      exact further _ _ _ _ first (inductionHypothesis rfl)
  | _ => cases repeated

/-- Any number of characters of a class. -/
@[simp]
theorem match_many_one_iff {belongs : Char → Bool} :
    Match (.many (.one belongs)) line fields ↔ (∀ c ∈ line, belongs c = true) ∧ fields = [] := by
  constructor
  · refine Match.manyInduction
      (motive := fun line fields => (∀ c ∈ line, belongs c = true) ∧ fields = []) (by simp) ?_
    intro front rest before after first inductionHypothesis
    obtain ⟨⟨c, inside, rfl⟩, rfl⟩ := match_one_iff.mp first
    exact ⟨by simpa using ⟨inside, inductionHypothesis.1⟩, inductionHypothesis.2⟩
  · rintro ⟨inside, rfl⟩
    induction line with
    | nil => exact .done
    | cons c rest inductionHypothesis =>
        obtain ⟨first, others⟩ := List.forall_mem_cons.mp inside
        exact .more (.one first) (inductionHypothesis others)

@[simp]
theorem match_row_iff {belongs : Char → Bool} :
    Match (row belongs) line fields ↔
      line ≠ [] ∧ (∀ c ∈ line, belongs c = true) ∧ fields = [] := by
  simp only [row, match_seq_iff, match_one_iff, match_many_one_iff]
  constructor
  · rintro ⟨_, rest, _, _, ⟨⟨c, inside, rfl⟩, rfl⟩, ⟨restInside, rfl⟩, rfl, rfl⟩
    exact ⟨by simp, by simpa using ⟨inside, restInside⟩, rfl⟩
  · rintro ⟨nonempty, inside, rfl⟩
    cases line with
    | nil => exact absurd rfl nonempty
    | cons c rest =>
        obtain ⟨first, others⟩ := List.forall_mem_cons.mp inside
        exact ⟨[c], rest, [], [], ⟨⟨c, first, rfl⟩, rfl⟩, ⟨others, rfl⟩, rfl, rfl⟩

theorem match_row_takeWhile {belongs : Char → Bool} {text : List Char}
    (starts : text.head?.any belongs = true) : Match (row belongs) (text.takeWhile belongs) [] := by
  refine match_row_iff.mpr ⟨?_, fun c inside => List.mem_takeWhile_imp inside, rfl⟩
  cases text with
  | nil => simp at starts
  | cons c rest =>
      have first : belongs c = true := starts
      rw [List.takeWhile_cons_of_pos first]
      exact List.cons_ne_nil _ _

theorem match_many_quotedChar_iff :
    Match (.many quotedChar) line fields ↔ Quoted.Raw line ∧ fields = [] := by
  constructor
  · refine Match.manyInduction
      (motive := fun line fields => Quoted.Raw line ∧ fields = []) ⟨.nil, rfl⟩ ?_
    rintro front rest before after first ⟨isRaw, rfl⟩
    simp only [quotedChar, match_either_iff, match_seq_iff, match_text_iff, match_one_iff,
      Bool.and_eq_true, decide_eq_true_eq] at first
    rcases first with ⟨⟨c, ⟨notQuote, notBackslash⟩, rfl⟩, rfl⟩ |
      ⟨_, _, _, _, ⟨rfl, rfl⟩, ⟨⟨c, notFeed, rfl⟩, rfl⟩, rfl, rfl⟩
    · exact ⟨.plain notQuote notBackslash isRaw, rfl⟩
    · exact ⟨.hidden notFeed isRaw, rfl⟩
  · rintro ⟨isRaw, rfl⟩
    induction isRaw with
    | nil => exact .done
    | plain notQuote notBackslash _ inductionHypothesis =>
        exact .more (.left (.one (by simp [notQuote, notBackslash]))) inductionHypothesis
    | hidden notFeed _ inductionHypothesis =>
        exact .more (.right (.seq .text (.one (by simp [notFeed])))) inductionHypothesis

@[simp]
theorem match_quoted_iff {number : Nat} :
    Match (quoted number) line fields ↔
      ∃ raw, Quoted.Raw raw ∧ line = '"' :: (raw ++ ['"']) ∧ fields = [(number, raw)] := by
  simp only [quoted, match_sequence_cons, match_sequence_nil, match_text_iff, match_field_iff,
    match_many_quotedChar_iff]
  constructor
  · rintro ⟨_, _, _, _, ⟨rfl, rfl⟩, ⟨raw, _, _, _, ⟨_, ⟨isRaw, rfl⟩, rfl⟩,
      ⟨_, _, _, _, ⟨rfl, rfl⟩, ⟨rfl, rfl⟩, rfl, rfl⟩, rfl, rfl⟩, rfl, rfl⟩
    exact ⟨raw, isRaw, rfl, rfl⟩
  · rintro ⟨raw, isRaw, rfl, rfl⟩
    exact ⟨['"'], raw ++ ['"'], [], _, ⟨rfl, rfl⟩, ⟨raw, ['"'], _, [], ⟨[], ⟨isRaw, rfl⟩, rfl⟩,
      ⟨['"'], [], [], [], ⟨rfl, rfl⟩, ⟨rfl, rfl⟩, rfl, rfl⟩, rfl, rfl⟩, rfl, rfl⟩

end Chronogram.Pattern
