import Chronogram.Proofs.Statement.Unambiguous
import Chronogram.Statement.Printer

/-!
Reading back statements that have been written.

A statement can be written if its fields look like fields of their kinds. The line that is written
for it then splits into these fields, and as a line splits in one way only, it is read as the same
statement.
-/

namespace Chronogram

open Text Printer

/-- A non-empty row of characters of one class. -/
def IsRow (belongs : Char → Bool) (text : List Char) : Prop :=
  text ≠ [] ∧ ∀ c ∈ text, belongs c = true

/-- A raw text that can stand between quotes on one line. -/
def IsField (raw : String) : Prop :=
  Quoted.Raw raw.toList ∧ '\n' ∉ raw.toList

/-- A row of digits, perhaps behind a minus sign. -/
def IsPosition (text : List Char) : Prop :=
  ∃ digits, IsRow isDigit digits ∧ (text = digits ∨ text = '-' :: digits)

/-- Whether a character can stand in a bare field that no comment could begin with. -/
def isTokenChar (c : Char) : Bool :=
  !isBlank c && c ≠ '"' && c ≠ '#'

/-- The fields of an arrow end look like a number, a name and perhaps another number. -/
def EndFields.Writable (fields : EndFields) : Prop :=
  IsRow isDigit fields.tick.toList ∧ IsField fields.lifeline ∧
    ∀ digits ∈ fields.slot, IsRow isDigit digits.toList

/-- The fields of a label look like a text and perhaps a position. -/
def LabelFields.Writable (fields : LabelFields) : Prop :=
  IsField fields.text ∧ ∀ token ∈ fields.position, IsPosition token.toList

/-- The field of a state looks like a text or like a bare field. -/
def StateField.Writable : StateField → Prop
  | .quoted raw => IsField raw
  | .bare token => IsRow isTokenChar token.toList

/-- The fields of a statement look like fields of their kinds. -/
def Statement.Writable : Statement → Prop
  | .config key value => IsRow isTokenChar key.toList ∧ IsRow isTokenChar value.toList
  | .title text => IsField text
  | .lifeline name => IsField name
  | .style name token => IsField name ∧ IsRow isWordChar token.toList
  | .state name label index => IsField name ∧ IsField label ∧ IsRow isDigit index.toList
  | .span name originTick destTick label =>
      IsField name ∧ IsRow isDigit originTick.toList ∧ IsRow isDigit destTick.toList ∧
        IsField label
  | .arrow fields =>
      fields.origin.Writable ∧ fields.dest.Writable ∧ ∀ label ∈ fields.label, label.Writable
  | .tick time name observed => IsRow isDigit time.toList ∧ IsField name ∧ observed.Writable

namespace Pattern

theorem Match.congr {pattern : Pattern} {line line' : List Char} {fields fields' : Fields}
    (matched : Match pattern line fields) (sameLine : line = line') (sameFields : fields = fields') :
    Match pattern line' fields' := by
  subst sameLine sameFields
  exact matched

theorem Match.append {pieces others : List Pattern} {front rest : List Char}
    {before after : Fields} (first : Match (sequence pieces) front before)
    (second : Match (sequence others) rest after) :
    Match (sequence (pieces ++ others)) (front ++ rest) (before ++ after) :=
  match_sequence_append.mpr ⟨front, rest, before, after, first, second, rfl, rfl⟩

theorem match_blank : Match (row isBlank) [' '] [] :=
  match_row_iff.mpr ⟨by simp, List.forall_mem_singleton.mpr (by decide), rfl⟩

theorem match_quotedText {raw : String} (isField : IsField raw) (number : Nat) :
    Match (quoted number) (quotedText raw) [(number, raw.toList)] :=
  match_quoted_iff.mpr ⟨raw.toList, isField.1, rfl, rfl⟩

theorem match_number {text : List Char} (isRow : IsRow isDigit text) (number : Nat) :
    Match (digits number) text [(number, text)] :=
  .field (match_row_iff.mpr ⟨isRow.1, isRow.2, rfl⟩)

theorem match_slot {slot : Option String} (writable : ∀ text ∈ slot, IsRow isDigit text.toList)
    (number : Nat) :
    Match (Pattern.slot number) (behindColon slot)
      (slot.toList.map fun text => (number, text.toList)) := by
  cases slot with
  | none => exact .absent
  | some text =>
      have isRow := writable text rfl
      refine .present (Match.congr (.seq .text (.seq (match_number isRow number) .text)) ?_ ?_)
      · simp [behindColon]
      · simp

theorem match_end {origin : EndFields} (writable : origin.Writable) (number : Nat) :
    Match (sequence (arrowEnd number)) (endText origin) (origin.fields number) := by
  obtain ⟨tick, name, slot⟩ := writable
  refine Match.congr (.seq .text (.seq (match_number tick number) (.seq .text
    (.seq (match_quotedText name (number + 1)) (.seq (match_slot slot (number + 2)) .text))))) ?_ ?_
  · simp [endText, tickText]
  · simp [EndFields.fields]

theorem match_head (style : ArrowStyle) (number : Nat) :
    Match (head number) (headText style) [(number, style.field)] := by
  cases style with
  | solid => exact .field (.left .text)
  | dashed => exact .field (.right .text)

theorem match_position {position : Option String}
    (writable : ∀ token ∈ position, IsPosition token.toList) (number : Nat) :
    Match (Pattern.position number) (behindColon position)
      (position.toList.map fun token => (number, token.toList)) := by
  cases position with
  | none => exact .absent
  | some token =>
      obtain ⟨text, isRow, sign⟩ := writable token rfl
      have matchedRow : Match (row isDigit) text [] := match_row_iff.mpr ⟨isRow.1, isRow.2, rfl⟩
      have matched : Match (.seq (.optional (.text ['-'])) (row isDigit)) token.toList [] := by
        rcases sign with plain | negative
        · exact Match.congr (.seq .absent matchedRow) plain.symm rfl
        · exact Match.congr (.seq (.present .text) matchedRow) negative.symm rfl
      refine .present (Match.congr (.seq .text (.seq (.field matched) .text)) ?_ ?_)
      · simp [behindColon]
      · simp

theorem match_label {label : Option LabelFields} (writable : ∀ fields ∈ label, fields.Writable)
    (number : Nat) :
    Match (Pattern.label number) (labelText label)
      (label.toList.flatMap fun fields => fields.fields number) := by
  cases label with
  | none => exact .absent
  | some fields =>
      obtain ⟨isField, position⟩ := writable fields rfl
      refine .present (Match.congr (.seq match_blank (.seq (match_quotedText isField number)
        (.seq (match_position position (number + 1)) .text))) ?_ ?_)
      · simp [labelText]
      · simp [LabelFields.fields]

theorem match_side (side : Option LabelSide) (number : Nat) :
    Match (Pattern.side number) (sideText side)
      (side.toList.map fun side => (number, side.field)) := by
  cases side with
  | none => exact .absent
  | some side =>
      cases side with
      | right => exact .present (.seq .text (.seq (.field (.left .text)) .text))
      | left => exact .present (.seq .text (.seq (.field (.right .text)) .text))

theorem match_state {observed : StateField} (writable : observed.Writable) :
    Match (.either (quoted 3) (.field 4 (row fun c => !isBlank c && c ≠ '"'))) (stateText observed)
      [observed.field] := by
  cases observed with
  | quoted raw => exact .left (match_quotedText writable 3)
  | bare token =>
      have bare : ∀ c ∈ token.toList, (!isBlank c && c ≠ '"') = true := by
        intro c membership
        have inside := writable.2 c membership
        simp only [isTokenChar, Bool.and_eq_true] at inside
        simpa using inside.1
      exact .right (.field (match_row_iff.mpr ⟨writable.1, bare, rfl⟩))

theorem match_token {token : String} (writable : IsRow isTokenChar token.toList) (number : Nat) :
    Match (.field number (row (!isBlank ·))) token.toList [(number, token.toList)] := by
  have solid : ∀ c ∈ token.toList, (!isBlank c) = true := by
    intro c membership
    have inside := writable.2 c membership
    simp only [isTokenChar, Bool.and_eq_true] at inside
    exact inside.1.1
  exact .field (match_row_iff.mpr ⟨writable.1, solid, rfl⟩)

end Pattern

namespace Statement

open Pattern

theorem match_write {statement : Statement} (writable : statement.Writable) :
    Match statement.kind.pattern statement.write statement.fields := by
  cases statement with
  | config key value =>
      obtain ⟨isKey, isValue⟩ := writable
      refine Match.congr (.seq .text (.seq match_blank (.seq (match_token isKey 1)
        (.seq match_blank (.seq (match_token isValue 2) .text))))) ?_ ?_
      · simp [write, spaced]
      · simp [fields]
  | title text =>
      refine Match.congr (.seq .text (.seq match_blank (.seq (match_quotedText writable 1) .text)))
        ?_ ?_
      · simp [write, spaced]
      · simp [fields]
  | lifeline name =>
      refine Match.congr (.seq .text (.seq match_blank (.seq (match_quotedText writable 1) .text)))
        ?_ ?_
      · simp [write, spaced]
      · simp [fields]
  | style name token =>
      obtain ⟨isName, isWord⟩ := writable
      have matchedWord : Match (row isWordChar) token.toList [] :=
        match_row_iff.mpr ⟨isWord.1, isWord.2, rfl⟩
      refine Match.congr (.seq .text (.seq match_blank (.seq (match_quotedText isName 1)
        (.seq match_blank (.seq (.field matchedWord) .text))))) ?_ ?_
      · simp [write, spaced]
      · simp [fields]
  | state name label index =>
      obtain ⟨isName, isLabel, isIndex⟩ := writable
      refine Match.congr (.seq .text (.seq match_blank (.seq (match_quotedText isName 1)
        (.seq match_blank (.seq (match_quotedText isLabel 2) (.seq match_blank
          (.seq (match_number isIndex 3) .text))))))) ?_ ?_
      · simp [write, spaced]
      · simp [fields]
  | span name originTick destTick label =>
      obtain ⟨isName, isOrigin, isDest, isLabel⟩ := writable
      refine Match.congr (.seq .text (.seq match_blank (.seq (match_quotedText isName 1)
        (.seq match_blank (.seq .text (.seq (match_number isOrigin 2) (.seq .text (.seq .text
          (.seq (match_number isDest 3) (.seq match_blank
            (.seq (match_quotedText isLabel 4) .text))))))))))) ?_ ?_
      · simp [write, spaced, tickText]
      · simp [fields]
  | arrow arrow =>
      obtain ⟨isOrigin, isDest, isLabel⟩ := writable
      have blank : Match (.many (.one isBlank)) [' '] [] :=
        match_many_one_iff.mpr ⟨List.forall_mem_singleton.mpr (by decide), rfl⟩
      refine Match.congr (Match.append (match_end isOrigin 1) (.seq blank
        (.seq (match_head arrow.style 4) (.seq blank (Match.append (match_end isDest 5)
          (.seq (match_label isLabel 8) (.seq (match_side arrow.side 10) .text))))))) ?_ ?_
      · simp [write, spaced]
      · simp [fields, ArrowFields.fields]
  | tick time name observed =>
      obtain ⟨isTime, isName, isState⟩ := writable
      refine Match.congr (.seq .text (.seq (match_number isTime 1) (.seq match_blank
        (.seq (match_quotedText isName 2) (.seq match_blank (.seq (match_state isState) .text))))))
        ?_ ?_
      · simp [write, spaced, tickText]
      · simp [fields]

/-- A statement that has been written is read as itself. -/
theorem read?_write {statement : Statement} (writable : statement.Writable) :
    read? (String.ofList statement.write) = some statement := by
  rw [read?_eq_some_iff_readKind?, readKind?_kind_eq_some_iff, String.toList_ofList]
  exact match_write writable

end Statement

end Chronogram
