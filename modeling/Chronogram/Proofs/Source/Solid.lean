import Chronogram.Proofs.Statement.Writing
import Chronogram.Source.Script

/-!
Texts that preprocessing leaves alone.

A solid text holds no comment, no line feed and no blank at its end. Solid texts may be put one
behind the other, also with a blank between them, so every line that is written for a statement is
solid.
-/

namespace Chronogram

open Text Printer Source

theorem isTokenChar_of_belongs {belongs : Char → Bool} {c : Char} (inside : belongs c = true)
    (blank : isBlank c = true → belongs c = false) (quote : belongs '"' = false)
    (sign : belongs '#' = false) : isTokenChar c = true := by
  have notBlank : isBlank c = false := by
    refine Bool.eq_false_iff.mpr fun isBlank => ?_
    rw [blank isBlank] at inside
    exact Bool.noConfusion inside
  have notQuote : c ≠ '"' := by
    rintro rfl
    exact Bool.noConfusion (quote.symm.trans inside)
  have notSign : c ≠ '#' := by
    rintro rfl
    exact Bool.noConfusion (sign.symm.trans inside)
  simp [isTokenChar, notBlank, notQuote, notSign]

theorem isTokenChar_of_isDigit {c : Char} (digit : isDigit c = true) : isTokenChar c = true :=
  isTokenChar_of_belongs digit isDigit_eq_false_of_isBlank (by decide) (by decide)

theorem isTokenChar_of_isWordChar {c : Char} (inside : isWordChar c = true) :
    isTokenChar c = true :=
  isTokenChar_of_belongs inside isWordChar_eq_false_of_isBlank (by decide) (by decide)

namespace Source

/-- The places outside quoted fields. -/
def Place.Outside : Place → Prop
  | .afterBlank | .afterMark => True
  | .quoted | .hidden => False

/-- A text that starts and ends outside quoted fields and holds no comment. -/
def Quiet (text : List Char) : Prop :=
  ∀ place : Place, place.Outside → ∃ next : Place, next.Outside ∧
    ∀ rest, beforeComment place (text ++ rest) = text ++ beforeComment next rest

theorem quiet_nil : Quiet [] :=
  fun place outside => ⟨place, outside, fun _ => rfl⟩

theorem Quiet.append {text other : List Char} (quiet : Quiet text) (quietOther : Quiet other) :
    Quiet (text ++ other) := by
  intro place outside
  obtain ⟨middle, outsideMiddle, passed⟩ := quiet place outside
  obtain ⟨next, outsideNext, passedOther⟩ := quietOther middle outsideMiddle
  refine ⟨next, outsideNext, fun rest => ?_⟩
  rw [List.append_assoc, passed, passedOther, List.append_assoc]

theorem Place.outside_next {place : Place} (outside : place.Outside) {c : Char} (notQuote : c ≠ '"') :
    (place.next c).Outside := by
  cases place with
  | afterBlank | afterMark =>
      simp only [next, notQuote, ↓reduceIte]
      split <;> trivial
  | quoted | hidden => exact outside.elim

theorem Place.next_quote {place : Place} (outside : place.Outside) : place.next '"' = .quoted := by
  cases place with
  | afterBlank | afterMark => rfl
  | quoted | hidden => exact outside.elim

/-- A character that neither starts a comment nor opens a field. -/
theorem quiet_singleton {c : Char} (notSign : c ≠ '#') (notQuote : c ≠ '"') : Quiet [c] := by
  intro place outside
  refine ⟨place.next c, Place.outside_next outside notQuote, fun rest => ?_⟩
  simp [beforeComment, notSign]

theorem quiet_of_forall {text : List Char} (plain : ∀ c ∈ text, c ≠ '#' ∧ c ≠ '"') :
    Quiet text := by
  induction text with
  | nil => exact quiet_nil
  | cons c rest inductionHypothesis =>
      obtain ⟨⟨notSign, notQuote⟩, plainRest⟩ := List.forall_mem_cons.mp plain
      exact (quiet_singleton notSign notQuote).append (inductionHypothesis plainRest)

/-- Inside quotes there are no comments, and a raw text does not close its field. -/
theorem beforeComment_raw {raw : List Char} (isRaw : Quoted.Raw raw) (rest : List Char) :
    beforeComment .quoted (raw ++ rest) = raw ++ beforeComment .quoted rest := by
  induction isRaw with
  | nil => rfl
  | plain notQuote notBackslash _ inductionHypothesis =>
      simp [beforeComment, Place.next, notQuote, notBackslash, inductionHypothesis]
  | hidden _ _ inductionHypothesis => simp [beforeComment, Place.next, inductionHypothesis]

theorem quiet_field {raw : List Char} (isRaw : Quoted.Raw raw) : Quiet ('"' :: (raw ++ ['"'])) := by
  intro place outside
  refine ⟨.afterMark, trivial, fun rest => ?_⟩
  have closed : Place.quoted.next '"' = .afterMark := rfl
  simp [beforeComment, Place.next_quote outside, closed, beforeComment_raw isRaw]

theorem stripComment_of_quiet {text : List Char} (quiet : Quiet text) :
    stripComment text = text := by
  obtain ⟨next, -, passed⟩ := quiet .afterBlank trivial
  simpa [stripComment, beforeComment] using passed []

/-- A text on one line without comments and without blanks at its end. -/
structure Solid (text : List Char) : Prop where
  quiet : Quiet text
  feedless : '\n' ∉ text
  ends : ∀ c ∈ text.getLast?, isBlank c = false

namespace Solid

variable {text other : List Char}

theorem nil : Solid [] :=
  ⟨quiet_nil, by simp, by simp⟩

theorem append (solid : Solid text) (solidOther : Solid other) : Solid (text ++ other) := by
  refine ⟨solid.quiet.append solidOther.quiet, ?_, ?_⟩
  · simpa using ⟨solid.feedless, solidOther.feedless⟩
  · intro c last
    rw [List.getLast?_append] at last
    cases found : other.getLast? with
    | none =>
        rw [found, Option.none_or] at last
        exact solid.ends c last
    | some d =>
        rw [found, Option.some_or] at last
        exact solidOther.ends c (found ▸ last)

/-- A blank may stand in front of a text that is not empty. -/
theorem behindBlank (solid : Solid text) (nonempty : text ≠ []) : Solid (' ' :: text) := by
  refine ⟨(quiet_singleton (by decide) (by decide)).append solid.quiet, ?_, ?_⟩
  · simpa using solid.feedless
  · cases text with
    | nil => exact absurd rfl nonempty
    | cons c rest => simpa [List.getLast?_cons_cons] using solid.ends

theorem spaced {pieces : List (List Char)}
    (solid : ∀ piece ∈ pieces, piece ≠ [] ∧ Solid piece) : Solid (spaced pieces) := by
  induction pieces with
  | nil => exact nil
  | cons piece rest inductionHypothesis =>
      obtain ⟨⟨-, solidPiece⟩, solidRest⟩ := List.forall_mem_cons.mp solid
      cases rest with
      | nil => exact solidPiece
      | cons next rest =>
          have nonempty : Printer.spaced (next :: rest) ≠ [] := by
            have nonemptyNext := (solidRest next List.mem_cons_self).1
            cases rest <;> simp [Printer.spaced, nonemptyNext]
          exact solidPiece.append ((inductionHypothesis solidRest).behindBlank nonempty)

/-- A row of characters that are neither blank nor special. -/
theorem of_forall (inside : ∀ c ∈ text, isTokenChar c = true) : Solid text := by
  have plain : ∀ c ∈ text, (isBlank c = false ∧ c ≠ '"') ∧ c ≠ '#' := by
    intro c membership
    simpa [isTokenChar] using inside c membership
  refine ⟨quiet_of_forall fun c membership => ?_, fun membership => ?_, fun c last => ?_⟩
  · exact ⟨(plain c membership).2, (plain c membership).1.2⟩
  · exact absurd (plain _ membership).1.1 (by decide)
  · exact (plain c (List.mem_of_mem_getLast? last)).1.1

theorem quotedText {raw : String} (isField : IsField raw) : Solid (quotedText raw) := by
  refine ⟨quiet_field isField.1, ?_, ?_⟩
  · simpa [Printer.quotedText] using isField.2
  · intro c last
    have same : c = '"' := by simpa [Printer.quotedText, List.getLast?_cons] using last.symm
    rw [same]
    decide

theorem digits (isRow : IsRow isDigit text) : Solid text :=
  of_forall fun c membership => isTokenChar_of_isDigit (isRow.2 c membership)

theorem word (isRow : IsRow isWordChar text) : Solid text :=
  of_forall fun c membership => isTokenChar_of_isWordChar (isRow.2 c membership)

theorem fixed (inside : text.all isTokenChar = true) : Solid text :=
  of_forall (List.all_eq_true.mp inside)

theorem cons {c : Char} (inside : isTokenChar c = true) (solid : Solid text) : Solid (c :: text) := by
  have first : Solid [c] := of_forall (by simpa using inside)
  exact first.append solid

theorem tickText {tick : String} (isRow : IsRow isDigit tick.toList) : Solid (tickText tick) :=
  (digits isRow).cons (by decide)

theorem endText {fields : EndFields} (writable : fields.Writable) : Solid (endText fields) := by
  obtain ⟨isTick, isName, isSlot⟩ := writable
  refine append (append (tickText isTick) ((quotedText isName).cons (by decide))) ?_
  cases slot : fields.slot with
  | none => exact nil
  | some text => exact (digits (isSlot text slot)).cons (by decide)

theorem headText (style : ArrowStyle) : Solid (headText style) := by
  cases style <;> exact fixed (by decide)

theorem labelText {label : Option LabelFields} (writable : ∀ fields ∈ label, fields.Writable) :
    Solid (labelText label) := by
  cases label with
  | none => exact nil
  | some fields =>
      obtain ⟨isText, isPosition⟩ := writable fields rfl
      refine append ((quotedText isText).behindBlank (by simp [Printer.quotedText])) ?_
      cases position : fields.position with
      | none => exact nil
      | some token =>
          obtain ⟨text, isRow, sign⟩ := isPosition token position
          rcases sign with plain | negative
          · exact (plain ▸ digits isRow).cons (by decide)
          · exact (negative ▸ (digits isRow).cons (by decide)).cons (by decide)

theorem sideText (side : Option LabelSide) : Solid (sideText side) := by
  rcases side with _ | side
  · exact nil
  · cases side <;> exact fixed (by decide)

theorem stateText {observed : StateField} (writable : observed.Writable) :
    Solid (stateText observed) := by
  cases observed with
  | quoted raw => exact quotedText writable
  | bare token => exact of_forall writable.2

theorem quotedText_ne_nil (raw : String) : Printer.quotedText raw ≠ [] := by
  simp [Printer.quotedText]

theorem write {statement : Statement} (writable : statement.Writable) : Solid statement.write := by
  cases statement with
  | config key value =>
      obtain ⟨isKey, isValue⟩ := writable
      refine spaced ?_
      simp only [List.forall_mem_cons]
      exact ⟨⟨by decide, fixed (by decide)⟩, ⟨isKey.1, of_forall isKey.2⟩,
        ⟨isValue.1, of_forall isValue.2⟩, by simp⟩
  | title text | lifeline name =>
      refine spaced ?_
      simp only [List.forall_mem_cons]
      exact ⟨⟨by decide, fixed (by decide)⟩, ⟨quotedText_ne_nil _, quotedText writable⟩,
        by simp⟩
  | style name token =>
      obtain ⟨isName, isWord⟩ := writable
      refine spaced ?_
      simp only [List.forall_mem_cons]
      exact ⟨⟨by decide, fixed (by decide)⟩, ⟨quotedText_ne_nil _, quotedText isName⟩,
        ⟨isWord.1, word isWord⟩, by simp⟩
  | state name label index =>
      obtain ⟨isName, isLabel, isIndex⟩ := writable
      refine spaced ?_
      simp only [List.forall_mem_cons]
      exact ⟨⟨by decide, fixed (by decide)⟩, ⟨quotedText_ne_nil _, quotedText isName⟩,
        ⟨quotedText_ne_nil _, quotedText isLabel⟩, ⟨isIndex.1, digits isIndex⟩, by simp⟩
  | span name originTick destTick label =>
      obtain ⟨isName, isOrigin, isDest, isLabel⟩ := writable
      have ticks : Solid (Printer.tickText originTick ++ ':' :: Printer.tickText destTick) :=
        append (tickText isOrigin) ((tickText isDest).cons (by decide))
      refine spaced ?_
      simp only [List.forall_mem_cons]
      exact ⟨⟨by decide, fixed (by decide)⟩, ⟨quotedText_ne_nil _, quotedText isName⟩,
        ⟨by simp [Printer.tickText], ticks⟩, ⟨quotedText_ne_nil _, quotedText isLabel⟩, by simp⟩
  | arrow fields =>
      obtain ⟨isOrigin, isDest, isLabel⟩ := writable
      have ends : Solid (Printer.spaced [Printer.endText fields.origin,
          Printer.headText fields.style, Printer.endText fields.dest]) := by
        refine spaced ?_
        simp only [List.forall_mem_cons]
        exact ⟨⟨by simp [Printer.endText, Printer.tickText], endText isOrigin⟩,
          ⟨by cases fields.style <;> simp [Printer.headText], headText _⟩,
          ⟨by simp [Printer.endText, Printer.tickText], endText isDest⟩, by simp⟩
      exact append (append ends (labelText isLabel)) (sideText fields.side)
  | tick time name observed =>
      obtain ⟨isTime, isName, isState⟩ := writable
      have nonempty : Printer.stateText observed ≠ [] := by
        cases observed with
        | quoted raw => exact quotedText_ne_nil raw
        | bare token => exact isState.1
      refine spaced ?_
      simp only [List.forall_mem_cons]
      exact ⟨⟨by simp [Printer.tickText], tickText isTime⟩,
        ⟨quotedText_ne_nil _, quotedText isName⟩, ⟨nonempty, stateText isState⟩, by simp⟩

end Solid

end Source

end Chronogram
