import Chronogram.Proofs.Source.Solid
import Chronogram.Proofs.Statement.Unambiguous

/-!
Where comments start.

A comment starts at the first number sign that stands outside quoted fields and has no character or a
blank in front of it. Which signs stand outside is told by the text in front of them alone: every
field that it opens is closed again. Statements hold no such sign, so a comment behind a statement is
cut off whole and takes nothing of the statement with it.
-/

namespace Chronogram

open Text

namespace Source

/-- The inside of a quoted field: a backslash hides the character behind it, and a quote that is not
hidden would close the field. -/
inductive FieldBody : List Char → Prop where
  | nil : FieldBody []
  | plain {c rest} : c ≠ '"' → c ≠ '\\' → FieldBody rest → FieldBody (c :: rest)
  | hidden {c rest} : FieldBody rest → FieldBody ('\\' :: c :: rest)

/-- A text that closes each quoted field that it opens. -/
inductive FieldsClosed : List Char → Prop where
  | nil : FieldsClosed []
  | plain {c rest} : c ≠ '"' → FieldsClosed rest → FieldsClosed (c :: rest)
  | field {body rest} :
      FieldBody body → FieldsClosed rest → FieldsClosed ('"' :: (body ++ '"' :: rest))

/-- A number sign that starts a comment if no other one does so earlier. -/
structure OpensComment (text : List Char) (index : Nat) : Prop where
  sign : text[index]? = some '#'
  outside : FieldsClosed (text.take index)
  spaced : ∀ c ∈ (text.take index).getLast?, isBlank c = true

/-! ### The place behind a text -/

namespace Place

def behind (place : Place) (text : List Char) : Place :=
  text.foldl Place.next place

/-- A text that leads from a place to one outside quoted fields. -/
def Leaves : Place → List Char → Prop
  | .afterBlank, text | .afterMark, text => FieldsClosed text
  | .quoted, text => ∃ body rest, FieldBody body ∧ FieldsClosed rest ∧ text = body ++ '"' :: rest
  | .hidden, text =>
      ∃ c body rest, FieldBody body ∧ FieldsClosed rest ∧ text = c :: (body ++ '"' :: rest)

theorem behind_fieldBody {body : List Char} (isBody : FieldBody body) :
    behind .quoted body = .quoted := by
  induction isBody with
  | nil => rfl
  | plain notQuote notBackslash _ inductionHypothesis =>
      simpa [behind, next, notQuote, notBackslash] using inductionHypothesis
  | hidden _ inductionHypothesis => simpa [behind, next] using inductionHypothesis

theorem outside_behind {text : List Char} (closed : FieldsClosed text) {place : Place}
    (outside : place.Outside) : (place.behind text).Outside := by
  induction closed generalizing place with
  | nil => exact outside
  | plain notQuote _ inductionHypothesis =>
      exact inductionHypothesis (outside_next outside notQuote)
  | @field body rest isBody _ inductionHypothesis =>
      have passed : place.behind ('"' :: (body ++ '"' :: rest)) = behind .afterMark rest := by
        have inside : body.foldl next .quoted = .quoted := behind_fieldBody isBody
        rw [behind, List.foldl_cons, next_quote outside, List.foldl_append, inside]
        rfl
      rw [passed]
      exact inductionHypothesis trivial

theorem leaves_of_outside {text : List Char} {place : Place}
    (outside : (place.behind text).Outside) : place.Leaves text := by
  induction text generalizing place with
  | nil =>
      cases place with
      | afterBlank | afterMark => exact .nil
      | quoted | hidden => exact outside.elim
  | cons c rest inductionHypothesis =>
      have remaining : (place.next c).Leaves rest := inductionHypothesis outside
      cases place with
      | afterBlank | afterMark =>
          by_cases isQuote : c = '"'
          · subst isQuote
            obtain ⟨body, behindField, isBody, closed, rfl⟩ := remaining
            exact .field isBody closed
          · refine .plain isQuote ?_
            simp only [next, isQuote, ↓reduceIte] at remaining
            split at remaining <;> exact remaining
      | quoted =>
          by_cases isBackslash : c = '\\'
          · subst isBackslash
            obtain ⟨d, body, behindField, isBody, closed, rfl⟩ := remaining
            exact ⟨'\\' :: d :: body, behindField, .hidden isBody, closed, rfl⟩
          by_cases isQuote : c = '"'
          · subst isQuote
            exact ⟨[], rest, .nil, remaining, rfl⟩
          · simp only [next, isBackslash, isQuote, ↓reduceIte] at remaining
            obtain ⟨body, behindField, isBody, closed, rfl⟩ := remaining
            exact ⟨c :: body, behindField, .plain isQuote isBackslash isBody, closed, rfl⟩
      | hidden =>
          obtain ⟨body, behindField, isBody, closed, rfl⟩ := remaining
          exact ⟨c, body, behindField, isBody, closed, rfl⟩

theorem outside_behind_iff {text : List Char} :
    (behind .afterBlank text).Outside ↔ FieldsClosed text :=
  ⟨leaves_of_outside, fun closed => outside_behind closed trivial⟩

theorem next_eq_afterBlank_iff {place : Place} {c : Char} :
    place.next c = .afterBlank ↔ (place.next c).Outside ∧ isBlank c = true := by
  have notQuote : isBlank '"' = false := by decide
  cases place with
  | afterBlank | afterMark =>
      by_cases isQuote : c = '"'
      · simp [next, isQuote, notQuote]
      · by_cases blank : isBlank c = true <;> simp [next, isQuote, blank, Outside]
  | quoted =>
      by_cases isBackslash : c = '\\'
      · simp [next, isBackslash, Outside]
      · by_cases isQuote : c = '"' <;> simp [next, isBackslash, isQuote, notQuote, Outside]
  | hidden => simp [next, Outside]

theorem behind_eq_afterBlank_iff {text : List Char} :
    behind .afterBlank text = .afterBlank ↔
      FieldsClosed text ∧ ∀ c ∈ text.getLast?, isBlank c = true := by
  rw [← outside_behind_iff]
  rcases List.eq_nil_or_concat text with rfl | ⟨front, c, rfl⟩
  · simp [behind, Outside]
  · simp [behind, next_eq_afterBlank_iff]

/-- A place in a text at which its comment could start, coming from another place. -/
def Stops (place : Place) (text : List Char) (index : Nat) : Prop :=
  text[index]? = some '#' ∧ place.behind (text.take index) = .afterBlank

theorem stops_cons_zero {place : Place} {c : Char} {rest : List Char} :
    place.Stops (c :: rest) 0 ↔ place = .afterBlank ∧ c = '#' := by
  simp [Stops, behind, and_comm]

theorem stops_cons_succ {place : Place} {c : Char} {rest : List Char} {index : Nat} :
    place.Stops (c :: rest) (index + 1) ↔ (place.next c).Stops rest index := by
  simp [Stops, behind]

theorem stops_iff {line : List Char} {index : Nat} :
    Stops .afterBlank line index ↔ OpensComment line index := by
  rw [Stops, behind_eq_afterBlank_iff]
  exact ⟨fun ⟨sign, outside, spaced⟩ => ⟨sign, outside, spaced⟩,
    fun opens => ⟨opens.sign, opens.outside, opens.spaced⟩⟩

end Place

/-- What is in front of a comment ends at the first place at which a comment could start. -/
theorem beforeComment_cases (place : Place) (text : List Char) :
    (∃ index, place.Stops text index ∧ (∀ earlier < index, ¬place.Stops text earlier) ∧
      beforeComment place text = text.take index) ∨
    ((∀ index, ¬place.Stops text index) ∧ beforeComment place text = text) := by
  induction text generalizing place with
  | nil => exact .inr ⟨by simp [Place.Stops], rfl⟩
  | cons c rest inductionHypothesis =>
      by_cases stops : place = .afterBlank ∧ c = '#'
      · refine .inl ⟨0, Place.stops_cons_zero.mpr stops, by simp, ?_⟩
        rw [beforeComment, if_pos stops, List.take_zero]
      have passed : beforeComment place (c :: rest) = c :: beforeComment (place.next c) rest := by
        rw [beforeComment, if_neg stops]
      have notHere : ¬place.Stops (c :: rest) 0 := fun here => stops (Place.stops_cons_zero.mp here)
      rcases inductionHypothesis (place.next c) with ⟨index, found, first, cut⟩ | ⟨none, kept⟩
      · refine .inl ⟨index + 1, Place.stops_cons_succ.mpr found, ?_, by rw [passed, cut]; rfl⟩
        rintro (_ | earlier) before
        · exact notHere
        · rw [Place.stops_cons_succ]
          exact first earlier (Nat.lt_of_succ_lt_succ before)
      · refine .inr ⟨?_, by rw [passed, kept]⟩
        rintro (_ | index)
        · exact notHere
        · rw [Place.stops_cons_succ]
          exact none index

/-- Behind a cut nothing is left to be cut off. -/
theorem beforeComment_beforeComment (place : Place) (text : List Char) :
    beforeComment place (beforeComment place text) = beforeComment place text := by
  induction text generalizing place with
  | nil => rfl
  | cons c rest inductionHypothesis =>
      by_cases stops : place = .afterBlank ∧ c = '#'
      · rw [beforeComment, if_pos stops]
        rfl
      · rw [beforeComment, if_neg stops, beforeComment, if_neg stops, inductionHypothesis]

/-! ### Comments behind a text -/

theorem isBlank_passes {c : Char} (blank : isBlank c = true) : c ≠ '#' ∧ c ≠ '"' := by
  constructor <;> rintro rfl <;> exact absurd blank (by decide)

theorem Place.next_blank {place : Place} (outside : place.Outside) {c : Char}
    (blank : isBlank c = true) : place.next c = .afterBlank :=
  next_eq_afterBlank_iff.mpr ⟨outside_next outside (isBlank_passes blank).2, blank⟩

theorem beforeComment_blanks_append {blanks : List Char} (blank : ∀ c ∈ blanks, isBlank c = true)
    (rest : List Char) :
    beforeComment .afterBlank (blanks ++ rest) = blanks ++ beforeComment .afterBlank rest := by
  induction blanks with
  | nil => rfl
  | cons c blanks inductionHypothesis =>
      obtain ⟨first, others⟩ := List.forall_mem_cons.mp blank
      have start : Place.afterBlank.Outside := trivial
      rw [List.cons_append, beforeComment, if_neg fun stops => (isBlank_passes first).1 stops.2,
        Place.next_blank start first, inductionHypothesis others, List.cons_append]

theorem beforeComment_blanks {blanks : List Char} (blank : ∀ c ∈ blanks, isBlank c = true)
    (comment : List Char) : beforeComment .afterBlank (blanks ++ '#' :: comment) = blanks := by
  rw [beforeComment_blanks_append blank]
  simp [beforeComment]

/-- Behind a quiet text and a blank a comment is cut off whole. -/
theorem stripComment_append {text blanks : List Char} (quiet : Quiet text)
    (nonempty : blanks ≠ []) (blank : ∀ c ∈ blanks, isBlank c = true) (comment : List Char) :
    stripComment (text ++ blanks ++ '#' :: comment) = text ++ blanks := by
  obtain ⟨place, outside, passed⟩ := quiet .afterBlank trivial
  rw [stripComment, List.append_assoc, passed]
  cases blanks with
  | nil => exact absurd rfl nonempty
  | cons c rest =>
      obtain ⟨first, others⟩ := List.forall_mem_cons.mp blank
      rw [List.cons_append, beforeComment, if_neg fun stops => (isBlank_passes first).1 stops.2,
        Place.next_blank outside first, beforeComment_blanks others]

/-! ### Lines of statements -/

/-- Behind a mark a number sign does not start a comment. -/
theorem beforeComment_bare {token : List Char} (bare : ∀ c ∈ token, Reader.isBareChar c = true)
    (rest : List Char) :
    beforeComment .afterMark (token ++ rest) = token ++ beforeComment .afterMark rest := by
  induction token with
  | nil => rfl
  | cons c token inductionHypothesis =>
      obtain ⟨first, others⟩ := List.forall_mem_cons.mp bare
      have plain : isBlank c = false ∧ c ≠ '"' := by simpa [Reader.isBareChar] using first
      simp [beforeComment, Place.next, plain, inductionHypothesis others]

/-- A bare token is quiet unless it starts with a number sign. -/
theorem quiet_bare {token : List Char} (bare : ∀ c ∈ token, Reader.isBareChar c = true)
    (notSign : token.head? ≠ some '#') : Quiet token := by
  cases token with
  | nil => exact quiet_nil
  | cons c token =>
      intro place outside
      obtain ⟨first, others⟩ := List.forall_mem_cons.mp bare
      have plain : isBlank c = false ∧ c ≠ '"' := by simpa [Reader.isBareChar] using first
      have passes : c ≠ '#' := by simpa using notSign
      have marked : place.next c = .afterMark := by
        cases place with
        | afterBlank | afterMark => simp [Place.next, plain]
        | quoted | hidden => exact outside.elim
      refine ⟨.afterMark, trivial, fun rest => ?_⟩
      simp [beforeComment, passes, marked, beforeComment_bare others]

end Source

namespace Pattern

open Source

/-- A form whose texts are quiet. -/
def IsQuiet (pattern : Pattern) : Prop :=
  ∀ line fields, Match pattern line fields → Quiet line

theorem isQuiet_text {expected : List Char}
    (plain : (expected.all fun c => c != '#' && c != '"') = true) : IsQuiet (.text expected) := by
  intro line fields matched
  obtain ⟨rfl, -⟩ := match_text_iff.mp matched
  refine quiet_of_forall fun c membership => ?_
  simpa using List.all_eq_true.mp plain c membership

theorem isQuiet_many_one {belongs : Char → Bool} (sign : belongs '#' = false)
    (quote : belongs '"' = false) : IsQuiet (.many (.one belongs)) := by
  intro line fields matched
  obtain ⟨inside, -⟩ := match_many_one_iff.mp matched
  refine quiet_of_forall fun c membership => ⟨?_, ?_⟩ <;> rintro rfl
  · exact Bool.noConfusion (sign.symm.trans (inside _ membership))
  · exact Bool.noConfusion (quote.symm.trans (inside _ membership))

theorem isQuiet_row {belongs : Char → Bool} (sign : belongs '#' = false)
    (quote : belongs '"' = false) : IsQuiet (row belongs) := by
  intro line fields matched
  obtain ⟨-, inside, -⟩ := match_row_iff.mp matched
  exact isQuiet_many_one sign quote line [] (match_many_one_iff.mpr ⟨inside, rfl⟩)

theorem isQuiet_either {left right : Pattern} (quietLeft : IsQuiet left)
    (quietRight : IsQuiet right) : IsQuiet (.either left right) := by
  intro line fields matched
  rcases match_either_iff.mp matched with matchedLeft | matchedRight
  · exact quietLeft line fields matchedLeft
  · exact quietRight line fields matchedRight

theorem isQuiet_optional {inner : Pattern} (quiet : IsQuiet inner) : IsQuiet (.optional inner) := by
  intro line fields matched
  rcases match_optional_iff.mp matched with ⟨rfl, -⟩ | present
  · exact quiet_nil
  · exact quiet line fields present

theorem isQuiet_field {number : Nat} {inner : Pattern} (quiet : IsQuiet inner) :
    IsQuiet (.field number inner) := by
  intro line fields matched
  obtain ⟨others, matchedInner, -⟩ := match_field_iff.mp matched
  exact quiet line others matchedInner

theorem isQuiet_seq {first second : Pattern} (quietFirst : IsQuiet first)
    (quietSecond : IsQuiet second) : IsQuiet (.seq first second) := by
  intro line fields matched
  obtain ⟨front, rest, before, after, matchedFirst, matchedSecond, rfl, -⟩ :=
    match_seq_iff.mp matched
  exact (quietFirst front before matchedFirst).append (quietSecond rest after matchedSecond)

theorem isQuiet_sequence {pieces : List Pattern} (quiet : ∀ piece ∈ pieces, IsQuiet piece) :
    IsQuiet (sequence pieces) := by
  induction pieces with
  | nil => exact isQuiet_text (by simp)
  | cons piece rest inductionHypothesis =>
      obtain ⟨quietPiece, quietRest⟩ := List.forall_mem_cons.mp quiet
      exact isQuiet_seq quietPiece (inductionHypothesis quietRest)

theorem isQuiet_quoted (number : Nat) : IsQuiet (quoted number) := by
  intro line fields matched
  obtain ⟨raw, isRaw, rfl, -⟩ := match_quoted_iff.mp matched
  exact quiet_field isRaw

theorem isQuiet_blanks : IsQuiet (row isBlank) :=
  isQuiet_row (by decide) (by decide)

theorem isQuiet_digits (number : Nat) : IsQuiet (digits number) :=
  isQuiet_field (isQuiet_row (by decide) (by decide))

theorem isQuiet_slot (number : Nat) : IsQuiet (slot number) := by
  refine isQuiet_optional (isQuiet_sequence ?_)
  simpa using ⟨isQuiet_text (by decide), isQuiet_digits number⟩

theorem isQuiet_arrowEnd (number : Nat) : ∀ piece ∈ arrowEnd number, IsQuiet piece := by
  simpa [arrowEnd] using ⟨isQuiet_text (by decide), isQuiet_digits number,
    isQuiet_text (by decide), isQuiet_quoted _, isQuiet_slot _⟩

theorem isQuiet_head (number : Nat) : IsQuiet (head number) :=
  isQuiet_field (isQuiet_either (isQuiet_text (by decide)) (isQuiet_text (by decide)))

theorem isQuiet_position (number : Nat) : IsQuiet (position number) := by
  refine isQuiet_optional (isQuiet_sequence ?_)
  have number : IsQuiet (.seq (.optional (.text ['-'])) (row isDigit)) :=
    isQuiet_seq (isQuiet_optional (isQuiet_text (by decide))) (isQuiet_row (by decide) (by decide))
  simpa using ⟨isQuiet_text (by decide), isQuiet_field number⟩

theorem isQuiet_label (number : Nat) : IsQuiet (label number) := by
  refine isQuiet_optional (isQuiet_sequence ?_)
  simpa using ⟨isQuiet_blanks, isQuiet_quoted number, isQuiet_position (number + 1)⟩

theorem isQuiet_side (number : Nat) : IsQuiet (side number) := by
  refine isQuiet_optional (isQuiet_sequence ?_)
  have letter : IsQuiet (.either (.text ['R']) (.text ['L'])) :=
    isQuiet_either (isQuiet_text (by decide)) (isQuiet_text (by decide))
  simpa using ⟨isQuiet_text (by decide), isQuiet_field letter⟩

end Pattern

namespace StatementKind

open Pattern Text

/-- Lines are quiet, apart from the kinds that end in a token which may hold number signs. -/
theorem isQuiet_pattern {kind : StatementKind} (notConfig : kind ≠ .config)
    (notTick : kind ≠ .tick) : kind.pattern.IsQuiet := by
  have word : IsQuiet (.field 2 (row isWordChar)) :=
    isQuiet_field (isQuiet_row (by decide) (by decide))
  refine isQuiet_sequence ?_
  cases kind with
  | config => exact absurd rfl notConfig
  | tick => exact absurd rfl notTick
  | title | lifeline =>
      simp only [pieces, List.forall_mem_cons]
      exact ⟨isQuiet_text (by decide), isQuiet_blanks, isQuiet_quoted 1, by simp⟩
  | style =>
      simp only [pieces, List.forall_mem_cons]
      exact ⟨isQuiet_text (by decide), isQuiet_blanks, isQuiet_quoted 1, isQuiet_blanks, word,
        by simp⟩
  | state =>
      simp only [pieces, List.forall_mem_cons]
      exact ⟨isQuiet_text (by decide), isQuiet_blanks, isQuiet_quoted 1, isQuiet_blanks,
        isQuiet_quoted 2, isQuiet_blanks, isQuiet_digits 3, by simp⟩
  | span =>
      simp only [pieces, List.forall_mem_cons]
      exact ⟨isQuiet_text (by decide), isQuiet_blanks, isQuiet_quoted 1, isQuiet_blanks,
        isQuiet_text (by decide), isQuiet_digits 2, isQuiet_text (by decide),
        isQuiet_text (by decide), isQuiet_digits 3, isQuiet_blanks, isQuiet_quoted 4, by simp⟩
  | arrow =>
      have blanks : IsQuiet (.many (.one isBlank)) := isQuiet_many_one (by decide) (by decide)
      simp only [pieces, List.forall_mem_append, List.forall_mem_cons]
      exact ⟨isQuiet_arrowEnd 1, blanks, isQuiet_head 4, blanks, isQuiet_arrowEnd 5,
        isQuiet_label 8, isQuiet_side 10, by simp⟩

/-- The line of an observation is quiet unless its state is a bare token that starts with a number
sign. -/
theorem quiet_of_match_tick {line : List Char} {fields : Fields}
    (matched : Match StatementKind.tick.pattern line fields)
    (notSign : ∀ token, (4, token) ∈ fields → token.head? ≠ some '#') : Source.Quiet line := by
  have quietFront : ∀ piece ∈ [.text ['T'], digits 1, row isBlank, quoted 2, row isBlank],
      IsQuiet piece := by
    simp only [List.forall_mem_cons]
    exact ⟨isQuiet_text (by decide), isQuiet_digits 1, isQuiet_blanks, isQuiet_quoted 2,
      isQuiet_blanks, by simp⟩
  have split : StatementKind.tick.pattern =
      Pattern.sequence ([.text ['T'], digits 1, row isBlank, quoted 2, row isBlank] ++
        [.either (quoted 3) (.field 4 (row Reader.isBareChar))]) := rfl
  rw [split] at matched
  obtain ⟨front, rest, before, after, matchedFront, matchedRest, rfl, rfl⟩ :=
    match_sequence_append.mp matched
  refine (isQuiet_sequence quietFront front before matchedFront).append ?_
  obtain ⟨state, _, stateFields, _, matchedState, nothing, rfl, rfl⟩ :=
    match_sequence_cons.mp matchedRest
  obtain ⟨rfl, rfl⟩ := match_sequence_nil.mp nothing
  rw [List.append_nil]
  rcases match_either_iff.mp matchedState with quotedState | bareState
  · exact isQuiet_quoted 3 state stateFields quotedState
  · obtain ⟨others, matchedRow, rfl⟩ := match_field_iff.mp bareState
    obtain ⟨-, bare, -⟩ := match_row_iff.mp matchedRow
    exact Source.quiet_bare bare (notSign state (by simp))

end StatementKind

/-- The line of a statement is quiet, unless it is a directive or ends in a bare state that starts
with a number sign. -/
theorem Statement.quiet_of_readKind? {kind : StatementKind} {line : List Char}
    {statement : Statement} (read : readKind? kind line = some statement) (notConfig : kind ≠ .config)
    (notSign : ∀ time name token, statement = .tick time name (.bare token) →
      token.toList.head? ≠ some '#') : Source.Quiet line := by
  obtain ⟨rfl, matched⟩ := match_of_readKind? read
  by_cases isTick : statement.kind = .tick
  · rw [isTick] at matched
    refine StatementKind.quiet_of_match_tick matched fun token membership => ?_
    cases statement with
    | tick time name observed =>
        cases observed with
        | quoted raw => simp [fields, StateField.field] at membership
        | bare bareToken =>
            obtain rfl : token = bareToken.toList := by
              simpa [fields, StateField.field] using membership
            exact notSign time name bareToken rfl
    | _ => cases isTick
  · exact StatementKind.isQuiet_pattern notConfig isTick line _ matched

open Source in
/-- Cutting off a comment is exact and takes nothing of a statement with it. What is left of a line
ends at the first number sign that opens a comment, and is the whole line if there is none; cutting a
second time changes nothing; and the line of a statement is kept, also where a comment stands behind
it, unless it is a directive or its state could be taken for a comment itself. -/
theorem comments_are_cut_where_they_start (line : List Char) :
    ((∃ index, OpensComment line index ∧ (∀ earlier < index, ¬OpensComment line earlier) ∧
        stripComment line = line.take index) ∨
      ((∀ index, ¬OpensComment line index) ∧ stripComment line = line)) ∧
    stripComment (stripComment line) = stripComment line ∧
    (∀ kind statement, Statement.readKind? kind line = some statement → kind ≠ .config →
      (∀ time name token, statement = .tick time name (.bare token) →
        token.toList.head? ≠ some '#') →
      stripComment line = line ∧
      ∀ blanks comment, blanks ≠ [] → (∀ c ∈ blanks, isBlank c = true) →
        stripComment (line ++ blanks ++ '#' :: comment) = line ++ blanks) := by
  refine ⟨?_, beforeComment_beforeComment .afterBlank line, ?_⟩
  · simpa only [stripComment, Place.stops_iff] using beforeComment_cases .afterBlank line
  · intro kind statement read notConfig notSign
    have quiet := Statement.quiet_of_readKind? read notConfig notSign
    refine ⟨stripComment_of_quiet quiet, fun blanks comment nonempty blank => ?_⟩
    exact stripComment_append quiet nonempty blank comment

open Source in
/-- Number signs behind a hidden quote and inside a bare state. -/
theorem signs_of_an_observation_are_kept :
    let line := "T3 \"a \\\" # b\" x#y".toList
    Statement.readKind? .tick line = some (.tick "3" "a \\\" # b" (.bare "x#y")) ∧
      stripComment (line ++ [' '] ++ '#' :: " late".toList) = line ++ [' '] := by
  intro line
  have read : Statement.readKind? .tick line = some (.tick "3" "a \\\" # b" (.bare "x#y")) := by
    decide +kernel
  refine ⟨read, ?_⟩
  refine ((comments_are_cut_where_they_start line).2.2 .tick _ read (by decide) ?_).2 _ _
    (List.cons_ne_nil _ _) (List.forall_mem_singleton.mpr rfl)
  rintro time name token ⟨⟩
  decide

end Chronogram
