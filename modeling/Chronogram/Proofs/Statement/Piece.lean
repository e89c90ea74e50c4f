import Chronogram.Proofs.Statement.Fields
import Chronogram.Proofs.Statement.Splitting
import Chronogram.Statement.Reader

/-!
Reading a line piece by piece.

`Reads` says that the answer for the rest of a line agrees with every way to split that rest along
the pieces that are left. Each reader of a piece keeps this relation: a piece is taken as far as it
goes, and that is the only choice if no text of the pieces behind it can go on with it. The
conditions `Avoids` say so.
-/

namespace Chronogram.Reader

open Text Pattern

theorem exactly?_eq_some_iff {expected line rest : List Char} :
    exactly? expected line = some rest ↔ line = expected ++ rest := by
  unfold exactly?
  constructor
  · intro found
    split at found
    next starts =>
      obtain ⟨after, rfl⟩ := List.isPrefixOf_iff_prefix.mp starts
      simpa using found
    next => simp at found
  · rintro rfl
    simp

theorem row?_eq_some_iff {belongs : Char → Bool} {line rest : List Char} {taken : String} :
    row? belongs line = some (taken, rest) ↔
      taken.toList ≠ [] ∧ (∀ c ∈ taken.toList, belongs c = true) ∧
        StartsOutside belongs rest ∧ line = taken.toList ++ rest := by
  simp only [row?, List.isEmpty_iff]
  constructor
  · intro found
    split at found
    next => simp at found
    next nonempty =>
      obtain ⟨rfl, rfl⟩ := Prod.mk.inj (Option.some.inj found)
      simp only [String.toList_ofList]
      exact ⟨nonempty, fun _ => List.mem_takeWhile_imp, startsOutside_dropWhile belongs line,
        (List.takeWhile_append_dropWhile).symm⟩
  · rintro ⟨nonempty, inside, outside, rfl⟩
    rw [takeWhile_row inside outside, dropWhile_row inside outside, if_neg nonempty]
    simp

theorem blanks?_eq_some_iff {line rest : List Char} :
    blanks? line = some rest ↔
      ∃ front, front ≠ [] ∧ (∀ c ∈ front, isBlank c = true) ∧ StartsOutside isBlank rest ∧
        line = front ++ rest := by
  unfold blanks?
  constructor
  · intro found
    split at found
    next c after =>
      split at found
      next blank =>
        obtain rfl := Option.some.inj found
        refine ⟨c :: after.takeWhile isBlank, by simp, ?_, startsOutside_dropWhile _ _, ?_⟩
        · exact List.forall_mem_cons.mpr ⟨blank, fun _ => List.mem_takeWhile_imp⟩
        · simp [trimStart, List.takeWhile_append_dropWhile]
      next => simp at found
    next => simp at found
  · rintro ⟨front, nonempty, inside, outside, rfl⟩
    cases front with
    | nil => exact absurd rfl nonempty
    | cons c front =>
        obtain ⟨blank, others⟩ := List.forall_mem_cons.mp inside
        simp [blank, trimStart, dropWhile_row others outside]

theorem quoted?_eq_some_iff {line rest : List Char} {raw : String} :
    quoted? line = some (raw, rest) ↔
      Quoted.Raw raw.toList ∧ line = '"' :: (raw.toList ++ '"' :: rest) := by
  unfold quoted?
  constructor
  · intro found
    obtain ⟨⟨text, after⟩, read, equality⟩ := Option.map_eq_some_iff.mp found
    obtain ⟨rfl, rfl⟩ := Prod.mk.inj equality
    simpa using Quoted.field?_eq_some_iff.mp read
  · intro written
    rw [Quoted.field?_eq_some_iff.mpr written]
    simp

/-- No text of some pieces starts with a character of a class. -/
def Avoids (belongs : Char → Bool) (pieces : List Pattern) : Prop :=
  ∀ line fields, Match (sequence pieces) line fields → StartsOutside belongs line

section Avoiding

variable {belongs : Char → Bool} {piece : Pattern} {pieces : List Pattern}

theorem avoids_nil : Avoids belongs [] := by
  rintro line fields matched
  simp [(match_sequence_nil.mp matched).1]

/-- A piece that always has a character decides how a text starts. -/
theorem avoids_cons
    (opens : ∀ line fields, Match piece line fields → line ≠ [] ∧ StartsOutside belongs line) :
    Avoids belongs (piece :: pieces) := by
  intro line fields matched
  obtain ⟨front, rest, before, after, first, _, rfl, rfl⟩ := match_sequence_cons.mp matched
  obtain ⟨nonempty, outside⟩ := opens front before first
  exact (startsOutside_append nonempty rest).mpr outside

theorem avoids_text {c : Char} {rest : List Char} (outside : belongs c = false) :
    Avoids belongs (.text (c :: rest) :: pieces) := by
  refine avoids_cons fun line fields matched => ?_
  obtain ⟨rfl, -⟩ := match_text_iff.mp matched
  simpa using outside

theorem avoids_row {inner : Char → Bool} (outside : ∀ c, inner c = true → belongs c = false) :
    Avoids belongs (row inner :: pieces) := by
  refine avoids_cons fun line fields matched => ?_
  obtain ⟨nonempty, inside, -⟩ := match_row_iff.mp matched
  refine ⟨nonempty, fun c first => outside c (inside c (List.mem_of_head? first))⟩

theorem avoids_quoted {number : Nat} (outside : belongs '"' = false) :
    Avoids belongs (quoted number :: pieces) := by
  refine avoids_cons fun line fields matched => ?_
  obtain ⟨raw, -, rfl, -⟩ := match_quoted_iff.mp matched
  simpa using outside

theorem avoids_field {number : Nat} (inner : Avoids belongs (piece :: pieces)) :
    Avoids belongs (.field number piece :: pieces) := by
  intro line fields matched
  obtain ⟨front, rest, before, after, first, others, rfl, rfl⟩ := match_sequence_cons.mp matched
  obtain ⟨own, matchedInner, rfl⟩ := match_field_iff.mp first
  exact inner _ _ (match_sequence_cons.mpr ⟨_, _, _, _, matchedInner, others, rfl, rfl⟩)

theorem avoids_either {left right : Pattern} (first : Avoids belongs (left :: pieces))
    (second : Avoids belongs (right :: pieces)) : Avoids belongs (.either left right :: pieces) := by
  intro line fields matched
  obtain ⟨front, rest, before, after, chosen, others, rfl, rfl⟩ := match_sequence_cons.mp matched
  rcases match_either_iff.mp chosen with inner | inner
  · exact first _ _ (match_sequence_cons.mpr ⟨_, _, _, _, inner, others, rfl, rfl⟩)
  · exact second _ _ (match_sequence_cons.mpr ⟨_, _, _, _, inner, others, rfl, rfl⟩)

theorem avoids_optional {inner : List Pattern} (present : Avoids belongs (inner ++ pieces))
    (absent : Avoids belongs pieces) :
    Avoids belongs (.optional (sequence inner) :: pieces) := by
  intro line fields matched
  obtain ⟨front, rest, before, after, chosen, others, rfl, rfl⟩ := match_sequence_cons.mp matched
  rcases match_optional_iff.mp chosen with ⟨rfl, rfl⟩ | chosen
  · exact absent _ _ others
  · exact present _ _ (match_sequence_append.mpr ⟨_, _, _, _, chosen, others, rfl, rfl⟩)

theorem avoids_many {inner : Char → Bool} (outside : ∀ c, inner c = true → belongs c = false)
    (after : Avoids belongs pieces) : Avoids belongs (.many (.one inner) :: pieces) := by
  intro line fields matched
  obtain ⟨front, rest, _, _, first, others, rfl, rfl⟩ := match_sequence_cons.mp matched
  obtain ⟨inside, -⟩ := match_many_one_iff.mp first
  cases front with
  | nil => exact after _ _ others
  | cons c front => simpa using outside c (inside c (by simp))

end Avoiding

/-- An answer agrees with every way to split a text along some pieces, the fields in front of which
are known. -/
structure Reads (kind : StatementKind) (before : Fields) (pieces : List Pattern)
    (line : List Char) (answer : Option Statement) : Prop where
  sound : ∀ statement, answer = some statement → statement.kind = kind ∧
    ∃ fields, Match (sequence pieces) line fields ∧ statement.fields = before ++ fields
  complete : ∀ fields, Match (sequence pieces) line fields →
    ∃ statement, answer = some statement ∧ statement.fields = before ++ fields

namespace Reads

variable {kind : StatementKind} {before : Fields} {piece : Pattern} {pieces : List Pattern}
  {line : List Char}

theorem done {statement : Statement} (sameKind : statement.kind = kind)
    (sameFields : statement.fields = before) :
    Reads kind before [] line (finish statement line) := by
  constructor
  · intro read found
    cases line with
    | nil =>
        obtain rfl : statement = read := Option.some.inj found
        exact ⟨sameKind, [], match_sequence_nil.mpr ⟨rfl, rfl⟩, by simpa using sameFields⟩
    | cons c rest => simp [finish] at found
  · intro fields matched
    obtain ⟨rfl, rfl⟩ := match_sequence_nil.mp matched
    exact ⟨statement, rfl, by simpa using sameFields⟩

/-- A reader that finds a piece exactly where the pattern has it goes on with what is left. -/
theorem andThen {Found : Type} {read : Found → Option Statement} (found : Option Found)
    (own : Found → Fields) (rest : Found → List Char)
    (sound : ∀ value, found = some value →
      ∃ front, Match piece front (own value) ∧ line = front ++ rest value)
    (complete : ∀ front after fields others, Match piece front fields →
      Match (sequence pieces) after others → line = front ++ after →
      ∃ value, found = some value ∧ own value = fields ∧ rest value = after)
    (next : ∀ value, Reads kind (before ++ own value) pieces (rest value) (read value)) :
    Reads kind before (piece :: pieces) line (found >>= read) := by
  constructor
  · intro statement answered
    obtain ⟨value, foundValue, readValue⟩ := Option.bind_eq_some_iff.mp answered
    obtain ⟨front, first, rfl⟩ := sound value foundValue
    obtain ⟨sameKind, fields, others, sameFields⟩ := (next value).sound statement readValue
    refine ⟨sameKind, own value ++ fields, ?_, by simpa using sameFields⟩
    exact match_sequence_cons.mpr ⟨_, _, _, _, first, others, rfl, rfl⟩
  · intro fields matched
    obtain ⟨front, after, _, _, first, others, rfl, rfl⟩ := match_sequence_cons.mp matched
    obtain ⟨value, rfl, rfl, rfl⟩ := complete _ _ _ _ first others rfl
    obtain ⟨statement, answered, sameFields⟩ := (next value).complete _ others
    exact ⟨statement, answered, by simpa using sameFields⟩

theorem text {expected : List Char} {read : List Char → Option Statement}
    (next : ∀ rest, Reads kind before pieces rest (read rest)) :
    Reads kind before (.text expected :: pieces) line (exactly? expected line >>= read) := by
  refine andThen _ (fun _ => []) id ?_ ?_ (by simpa using next)
  · rintro rest found
    exact ⟨expected, .text, exactly?_eq_some_iff.mp found⟩
  · rintro front after fields _ matched - rfl
    obtain ⟨rfl, rfl⟩ := match_text_iff.mp matched
    exact ⟨after, exactly?_eq_some_iff.mpr rfl, rfl, rfl⟩

theorem blanks {read : List Char → Option Statement} (avoids : Avoids isBlank pieces)
    (next : ∀ rest, Reads kind before pieces rest (read rest)) :
    Reads kind before (row isBlank :: pieces) line (blanks? line >>= read) := by
  refine andThen _ (fun _ => []) id ?_ ?_ (by simpa using next)
  · rintro rest found
    obtain ⟨front, nonempty, inside, -, rfl⟩ := blanks?_eq_some_iff.mp found
    exact ⟨front, match_row_iff.mpr ⟨nonempty, inside, rfl⟩, rfl⟩
  · rintro front after fields others matched following rfl
    obtain ⟨nonempty, inside, rfl⟩ := match_row_iff.mp matched
    exact ⟨after, blanks?_eq_some_iff.mpr ⟨front, nonempty, inside, avoids _ _ following, rfl⟩,
      rfl, rfl⟩

theorem keyword {word : String} {read : List Char → Option Statement}
    (avoids : Avoids isBlank pieces) (next : ∀ rest, Reads kind before pieces rest (read rest)) :
    Reads kind before (.text word.toList :: row isBlank :: pieces) line
      (keyword? word line >>= read) := by
  have split : keyword? word line >>= read =
      exactly? word.toList line >>= fun rest => blanks? rest >>= read :=
    Option.bind_assoc _ _ _
  rw [split]
  exact text fun rest => blanks avoids next

/-- Read a row of characters of one class in front of something else. -/
theorem row {belongs : Char → Bool} {number : Nat} {read : String × List Char → Option Statement}
    (avoids : Avoids belongs pieces)
    (next : ∀ taken rest,
      Reads kind (before ++ [(number, taken.toList)]) pieces rest (read (taken, rest))) :
    Reads kind before (.field number (Pattern.row belongs) :: pieces) line
      (row? belongs line >>= read) := by
  refine andThen _ (fun value => [(number, value.1.toList)]) Prod.snd ?_ ?_
    fun (taken, rest) => next taken rest
  · rintro ⟨taken, rest⟩ found
    obtain ⟨nonempty, inside, -, rfl⟩ := row?_eq_some_iff.mp found
    exact ⟨taken.toList, .field (match_row_iff.mpr ⟨nonempty, inside, rfl⟩), rfl⟩
  · rintro front after fields others matched following rfl
    obtain ⟨_, inner, rfl⟩ := match_field_iff.mp matched
    obtain ⟨nonempty, inside, rfl⟩ := match_row_iff.mp inner
    refine ⟨(String.ofList front, after), ?_, by simp, rfl⟩
    exact row?_eq_some_iff.mpr (by simpa using ⟨nonempty, inside, avoids _ _ following⟩)

/-- Read a quoted field. Its end is where it is whatever follows. -/
theorem quoted {number : Nat} {read : String × List Char → Option Statement}
    (next : ∀ raw rest,
      Reads kind (before ++ [(number, raw.toList)]) pieces rest (read (raw, rest))) :
    Reads kind before (Pattern.quoted number :: pieces) line (quoted? line >>= read) := by
  refine andThen _ (fun value => [(number, value.1.toList)]) Prod.snd ?_ ?_
    fun (raw, rest) => next raw rest
  · rintro ⟨raw, rest⟩ found
    obtain ⟨isRaw, rfl⟩ := quoted?_eq_some_iff.mp found
    exact ⟨_, match_quoted_iff.mpr ⟨raw.toList, isRaw, rfl, rfl⟩, by simp⟩
  · rintro front after fields others matched - rfl
    obtain ⟨raw, isRaw, rfl, rfl⟩ := match_quoted_iff.mp matched
    refine ⟨(String.ofList raw, after), ?_, by simp, rfl⟩
    exact quoted?_eq_some_iff.mpr (by simpa using isRaw)

theorem tick {number : Nat} {read : String × List Char → Option Statement}
    (avoids : Avoids isDigit pieces)
    (next : ∀ digits rest,
      Reads kind (before ++ [(number, digits.toList)]) pieces rest (read (digits, rest))) :
    Reads kind before (.text ['T'] :: Pattern.digits number :: pieces) line
      (tick? line >>= read) := by
  have split : tick? line >>= read =
      exactly? ['T'] line >>= fun rest => digits? rest >>= read :=
    Option.bind_assoc _ _ _
  rw [split]
  exact text fun rest => row avoids next

end Reads

end Chronogram.Reader
