import Chronogram.Proofs.Checked.Trap
import Chronogram.Proofs.Statement.Unambiguous
import Chronogram.Source.Script
import Mathlib.Data.List.DropRight

/-!
Reading with checked steps.

A comment is cut off at the position of its number sign, the parts of a definition and of a
statement are the numbered fields of the split of its line, and a line that is read must have the
form of one kind and no more. All of this is possible on every text: a comment starts at a
character, and the fields that are read are those that no split leaves out.
-/

namespace Chronogram

open Text Source

namespace Source.Definition

open Pattern in
/-- The form of definitions: the keyword, a name, and perhaps a text. No line holds a line feed, so
any character can stand in the text. -/
def pattern : Pattern :=
  sequence [.text definitionKeyword, row isBlank, .field 1 (row isNameChar),
    .optional (sequence [row isBlank, .field 2 (.many (.one fun _ => true))])]

def fields? (line : List Char) : Option Fields :=
  if definitionKeyword.isPrefixOf line then
    let afterKeyword := line.drop definitionKeyword.length
    let spec := trimStart afterKeyword
    let name := spec.takeWhile isNameChar
    let afterName := spec.dropWhile isNameChar
    if afterKeyword.head?.any isBlank && !name.isEmpty && afterName.head?.all isBlank then
      some ((1, name) :: if afterName.isEmpty then [] else [(2, trimStart afterName)])
    else none
  else none

open Pattern

theorem match_behindName {afterName : List Char} (ends : afterName.head?.all isBlank = true) :
    Match (.optional (sequence [row isBlank, .field 2 (.many (.one fun _ => true))])) afterName
      (if afterName.isEmpty then [] else [(2, trimStart afterName)]) := by
  cases afterName with
  | nil => exact .absent
  | cons c text =>
      have starts : (c :: text).head?.any isBlank = true := ends
      have last : Match (.field 2 (.many (.one fun _ => true))) (trimStart (c :: text))
          [(2, trimStart (c :: text))] := .field (match_many_one_iff.mpr ⟨by simp, rfl⟩)
      refine .present (match_sequence_cons.mpr ⟨_, _, [], _, match_row_takeWhile starts,
        match_sequence_singleton last, ?_, rfl⟩)
      exact List.takeWhile_append_dropWhile.symm

theorem match_of_fields? {line : List Char} {fields : Fields} (found : fields? line = some fields) :
    Match pattern line fields := by
  unfold fields? at found
  by_cases isDefinition : definitionKeyword.isPrefixOf line = true
  · obtain ⟨afterKeyword, rfl⟩ := List.isPrefixOf_iff_prefix.mp isDefinition
    rw [if_pos isDefinition, List.drop_left] at found
    simp only [Option.ite_none_right_eq_some, Bool.and_eq_true, Option.some.injEq] at found
    obtain ⟨⟨⟨blank, named⟩, ends⟩, rfl⟩ := found
    generalize spec : trimStart afterKeyword = rest at named ends
    have split : afterKeyword = afterKeyword.takeWhile isBlank ++ rest := by
      rw [← spec]
      exact List.takeWhile_append_dropWhile.symm
    have keyword : Match (.text definitionKeyword) definitionKeyword [] := .text
    have name : Match (.field 1 (row isNameChar)) (rest.takeWhile isNameChar)
        [(1, rest.takeWhile isNameChar)] := by
      refine .field (match_row_iff.mpr ⟨?_, fun c inside => List.mem_takeWhile_imp inside, rfl⟩)
      simpa using named
    have behind := match_behindName ends
    rw [split]
    refine match_sequence_cons.mpr ⟨_, _, [], _, keyword, ?_, rfl, rfl⟩
    refine match_sequence_cons.mpr ⟨_, _, [], _, match_row_takeWhile blank, ?_, rfl, rfl⟩
    refine match_sequence_cons.mpr ⟨_, _, _, _, name, match_sequence_singleton behind, ?_, rfl⟩
    exact List.takeWhile_append_dropWhile.symm
  · simp [isDefinition] at found

end Source.Definition

namespace Checked

def field (fields : Fields) (number : Nat) : Checked String :=
  match fields.lookup number with
  | some found => .ok (String.ofList found)
  | none => .error (.absentField number)

def optionalField (fields : Fields) (number : Nat) : Option String :=
  (fields.lookup number).map String.ofList

theorem field_of_lookup {fields : Fields} {number : Nat} {text : List Char}
    (found : fields.lookup number = some text) : field fields number = .ok (String.ofList text) := by
  rw [field, found]

/-! ### Comments -/

/-- The position of the comment of a line, given the position of the first character that is left. -/
def commentAt? : Place → Nat → List Char → Option Nat
  | _, _, [] => none
  | place, position, c :: rest =>
      if place = .afterBlank ∧ c = '#' then some position
      else commentAt? (place.next c) (position + c.utf8Size) rest

def stripComment (line : List Char) : Checked (List Char) :=
  match commentAt? .afterBlank 0 line with
  | some position => front line position
  | none => .ok line

/-- A comment starts where the part in front of it ends. -/
theorem commentAt?_eq (place : Place) (position : Nat) (line : List Char) :
    ∃ comment, line = beforeComment place line ++ comment ∧
      commentAt? place position line =
        if comment = [] then none
        else some (position + ((beforeComment place line).map Char.utf8Size).sum) := by
  induction line generalizing place position with
  | nil => exact ⟨[], rfl, rfl⟩
  | cons c rest inductionHypothesis =>
      unfold beforeComment commentAt?
      by_cases starts : place = .afterBlank ∧ c = '#'
      · refine ⟨c :: rest, ?_, ?_⟩
        · rw [if_pos starts, List.nil_append]
        · rw [if_pos starts, if_pos starts]
          simp
      · obtain ⟨comment, split, found⟩ := inductionHypothesis (place.next c) (position + c.utf8Size)
        refine ⟨comment, ?_, ?_⟩
        · rw [if_neg starts, List.cons_append, ← split]
        · rw [if_neg starts, if_neg starts, found, List.map_cons, List.sum_cons, Nat.add_assoc]

theorem stripComment_eq (line : List Char) : stripComment line = .ok (Source.stripComment line) := by
  obtain ⟨comment, split, found⟩ := commentAt?_eq .afterBlank 0 line
  unfold stripComment Source.stripComment
  rw [found]
  by_cases commented : comment = []
  · rw [if_pos commented]
    simpa [commented] using split
  · rw [if_neg commented, Nat.zero_add]
    have cut := front_append (beforeComment .afterBlank line) comment
    rwa [← split] at cut

/-! ### Definitions -/

theorem exists_name {line : List Char} {fields : Fields}
    (matched : Pattern.Match Definition.pattern line fields) :
    ∃ name, field fields 1 = .ok name := by
  obtain ⟨_, _, _, _, keyword, behindKeyword, -, rfl⟩ := Pattern.match_sequence_cons.mp matched
  obtain ⟨_, _, _, _, blanks, behindBlanks, -, rfl⟩ := Pattern.match_sequence_cons.mp behindKeyword
  obtain ⟨name, _, _, _, named, -, -, rfl⟩ := Pattern.match_sequence_cons.mp behindBlanks
  obtain ⟨-, rfl⟩ := Pattern.match_text_iff.mp keyword
  obtain ⟨-, -, rfl⟩ := Pattern.match_row_iff.mp blanks
  obtain ⟨_, -, rfl⟩ := Pattern.match_field_iff.mp named
  exact ⟨String.ofList name, field_of_lookup rfl⟩

def definition? (line : List Char) : Checked (Option Definition) :=
  match Definition.fields? line with
  | none => .ok none
  | some fields => do
      let name ← field fields 1
      .ok (some ⟨name, String.ofList (trim ((fields.lookup 2).getD []))⟩)

theorem definition?_eq (line : List Char) : definition? line = .ok (Definition.read? line) := by
  unfold definition? Definition.fields? Definition.read?
  by_cases isDefinition : definitionKeyword.isPrefixOf line = true
  · simp only [isDefinition, ↓reduceIte]
    generalize trimStart (line.drop definitionKeyword.length) = rest
    by_cases conditions : ((line.drop definitionKeyword.length).head?.any isBlank &&
        !(rest.takeWhile isNameChar).isEmpty && (rest.dropWhile isNameChar).head?.all isBlank) = true
    · simp only [conditions, ↓reduceIte]
      cases behind : rest.dropWhile isNameChar with
      | nil => rfl
      | cons c text =>
          have trimmed : trim (trimStart (c :: text)) = trim (c :: text) := by
            simp only [trim, trimStart, List.dropWhile_idempotent]
          simp only [List.isEmpty_cons, Bool.false_eq_true, ↓reduceIte]
          rw [← trimmed]
          rfl
    · simp only [conditions, Bool.false_eq_true, ↓reduceIte]
  · simp only [isDefinition, Bool.false_eq_true, ↓reduceIte]

def rawLine (raw : List Char) : Checked RawLine :=
  if isCommentLine raw then .ok .nothing
  else do
    let kept ← stripComment raw
    let text := trim kept
    if text.isEmpty then .ok .nothing
    else
      let found ← definition? text
      .ok (found.elim (.statement text) .definition)

theorem rawLine_eq (raw : List Char) : rawLine raw = .ok (RawLine.ofText raw) := by
  unfold rawLine RawLine.ofText
  by_cases commented : isCommentLine raw = true
  · rw [if_pos commented, if_pos commented]
  · rw [if_neg commented, if_neg commented, stripComment_eq]
    simp only [bind, Except.bind]
    by_cases empty : (trim (Source.stripComment raw)).isEmpty = true
    · rw [if_pos empty, if_pos empty]
    · rw [if_neg empty, if_neg empty, definition?_eq]
      cases Definition.read? (trim (Source.stripComment raw)) <;> rfl

theorem length_linesFrom_le (seen text : List Char) :
    (linesFrom seen text).length ≤ seen.length + text.length := by
  induction text generalizing seen with
  | nil => cases seen <;> simp [linesFrom]
  | cons c rest inductionHypothesis =>
      unfold linesFrom
      by_cases feed : c = '\n'
      · have others := inductionHypothesis []
        rw [List.length_nil, Nat.zero_add] at others
        rw [if_pos feed, List.length_cons, List.length_cons]
        omega
      · have others := inductionHypothesis (c :: seen)
        rw [if_neg feed]
        rw [List.length_cons] at others ⊢
        omega

theorem number_le_of_mem {text : String} {entry : RawLine × Nat}
    (membership : entry ∈ numberedLines text) : entry.2 ≤ text.length := by
  have counted := List.snd_lt_add_of_mem_zipIdx membership
  have few := length_linesFrom_le [] text.toList
  rw [List.length_map] at counted
  rw [List.length_nil, Nat.zero_add, String.length_toList] at few
  have lines : (lines text.toList).length = (linesFrom [] text.toList).length := rfl
  omega

def script (text : String) : Checked Script := do
  let raws ← (lines text.toList).mapM rawLine
  let numbered := raws.zipIdx 1
  let macros := Macros.ofDefinitions (definitions numbered)
  .ok {
    lines := numbered.filterMap fun (raw, number) => expandLine? macros raw number
    macros }

theorem script_eq (text : String) : script text = .ok (Script.ofText text) := by
  rw [script, mapM_eq_ok fun raw _ => rawLine_eq raw]
  rfl

/-! ### Statements -/

def endOf (fields : Fields) (number : Nat) : Checked EndFields := do
  let tick ← field fields number
  let lifeline ← field fields (number + 1)
  .ok ⟨tick, lifeline, optionalField fields (number + 2)⟩

def statement (fields : Fields) : StatementKind → Checked Statement
  | .config => do
      let key ← field fields 1
      let value ← field fields 2
      .ok (.config key value)
  | .title => do
      let text ← field fields 1
      .ok (.title text)
  | .lifeline => do
      let name ← field fields 1
      .ok (.lifeline name)
  | .style => do
      let name ← field fields 1
      let token ← field fields 2
      .ok (.style name token)
  | .state => do
      let name ← field fields 1
      let label ← field fields 2
      let index ← field fields 3
      .ok (.state name label index)
  | .span => do
      let name ← field fields 1
      let originTick ← field fields 2
      let destTick ← field fields 3
      let label ← field fields 4
      .ok (.span name originTick destTick label)
  | .arrow => do
      let head ← field fields 4
      let origin ← endOf fields 1
      let dest ← endOf fields 5
      .ok (.arrow {
        origin, dest
        style := if head = "->" then .solid else .dashed
        label := (optionalField fields 8).map fun text => ⟨text, optionalField fields 9⟩
        side := (optionalField fields 10).map fun side => if side = "L" then .left else .right })
  | .tick => do
      let time ← field fields 1
      let name ← field fields 2
      let state := match optionalField fields 3, optionalField fields 4 with
        | some raw, _ => .quoted raw
        | none, some token => .bare token
        | none, none => .quoted ""
      .ok (.tick time name state)

theorem endOf_fields {fields : Fields} {number : Nat} {read : EndFields}
    (tick : fields.lookup number = some read.tick.toList)
    (lifeline : fields.lookup (number + 1) = some read.lifeline.toList)
    (slot : fields.lookup (number + 2) = read.slot.map String.toList) :
    endOf fields number = .ok read := by
  rw [endOf, field_of_lookup tick, field_of_lookup lifeline, optionalField, slot, Option.map_map]
  cases read
  simp [bind, Except.bind, Function.comp_def]

theorem statement_fields (read : Statement) : statement read.fields read.kind = .ok read := by
  cases read with
  | arrow arrow =>
      obtain ⟨⟨tick, name, slot⟩, head, ⟨tick', name', slot'⟩, text, position, side⟩ :=
        arrow.lookup_fields
      have origin := endOf_fields tick name slot
      have dest := endOf_fields tick' name' slot'
      have style : (if String.ofList arrow.style.field = "->" then ArrowStyle.solid else .dashed) =
          arrow.style := by
        cases arrow.style <;> rfl
      have label : ((optionalField arrow.fields 8).map fun text =>
          (⟨text, optionalField arrow.fields 9⟩ : LabelFields)) = arrow.label := by
        rw [optionalField, optionalField, text, position]
        rcases arrow.label with _ | ⟨text, _ | position⟩ <;> simp
      have side : ((optionalField arrow.fields 10).map fun side =>
          if side = "L" then LabelSide.left else .right) = arrow.side := by
        rw [optionalField, side]
        rcases arrow.side with _ | (_ | _) <;> rfl
      change statement arrow.fields .arrow = _
      rw [statement, field_of_lookup head, origin, dest]
      simp only [bind, Except.bind, style, label, side]
  | tick time name state =>
      cases state <;>
        simp [Statement.fields, Statement.kind, StateField.field, statement, field, optionalField,
          List.lookup_cons, bind, Except.bind]
  | _ => simp [Statement.fields, Statement.kind, statement, field, List.lookup_cons, bind, Except.bind]

def split? (line : String) : Option (StatementKind × Fields) :=
  Statement.kinds.findSome? fun kind =>
    (Statement.readKind? kind line.toList).map fun read => (kind, read.fields)

theorem split?_eq (line : String) :
    split? line = (Statement.read? line).map fun read => (read.kind, read.fields) := by
  rw [split?, Statement.read?, List.map_findSome?]
  congr 1
  funext kind
  cases found : Statement.readKind? kind line.toList with
  | none => simp [found]
  | some read =>
      obtain ⟨rfl, -⟩ := Statement.match_of_readKind? found
      simp [found]

theorem split?_eq_some_iff {line : String} {kind : StatementKind} {fields : Fields} :
    split? line = some (kind, fields) ↔ Pattern.Match kind.pattern line.toList fields := by
  rw [split?_eq, Option.map_eq_some_iff]
  constructor
  · rintro ⟨read, found, same⟩
    obtain ⟨rfl, rfl⟩ := Prod.mk.inj same
    exact (Statement.match_of_readKind? (Statement.read?_eq_some_iff_readKind?.mp found)).2
  · intro matched
    obtain ⟨read, found, rfl⟩ := Statement.readKind?_of_match matched
    obtain ⟨rfl, -⟩ := Statement.match_of_readKind? found
    exact ⟨read, Statement.read?_eq_some_iff_readKind?.mpr found, rfl⟩

/-- A line is read only if it has exactly one form. -/
def exclusive (line : String) : Checked Unit :=
  if (Statement.matchingKinds line).length = 1 then .ok ()
  else .error (.notExclusive (Statement.matchingKinds line).length)

theorem exclusive_of_read? {line : String} {read : Statement}
    (found : Statement.read? line = some read) : exclusive line = .ok () := by
  have matched := Statement.read?_eq_some_iff_readKind?.mp found
  have among : read.kind ∈ Statement.matchingKinds line :=
    Statement.mem_matchingKinds_iff.mpr ⟨_, (Statement.match_of_readKind? matched).2⟩
  have some : 0 < (Statement.matchingKinds line).length := List.length_pos_of_mem among
  have atMostOne := Statement.length_matchingKinds_le_one line
  exact if_pos (by omega)

/-- Every field that is read has a part in every split. -/
theorem exists_statement {kind : StatementKind} {line : List Char} {fields : Fields}
    (matched : Pattern.Match kind.pattern line fields) :
    ∃ read, statement fields kind = .ok read := by
  obtain ⟨read, found, rfl⟩ := Statement.readKind?_of_match matched
  obtain ⟨rfl, -⟩ := Statement.match_of_readKind? found
  exact ⟨read, statement_fields read⟩

/-- Lines are split along their forms, and no split leaves out a field that is read. -/
structure FieldsTakePart : Prop where
  statementSplits : ∀ (line : String) (kind : StatementKind) (fields : Fields),
    split? line = some (kind, fields) ↔ Pattern.Match kind.pattern line.toList fields
  statementFields : ∀ (kind : StatementKind) (line : List Char) (fields : Fields),
    Pattern.Match kind.pattern line fields → ∃ read, statement fields kind = .ok read
  definitionSplits : ∀ (line : List Char) (fields : Fields),
    Definition.fields? line = some fields → Pattern.Match Definition.pattern line fields
  definitionFields : ∀ (line : List Char) (fields : Fields),
    Pattern.Match Definition.pattern line fields → ∃ name, field fields 1 = .ok name

theorem fieldsTakePart : FieldsTakePart where
  statementSplits := by
    intro line kind fields
    exact split?_eq_some_iff
  statementFields := by
    intro kind line fields matched
    exact exists_statement matched
  definitionSplits := by
    intro line fields found
    exact Definition.match_of_fields? found
  definitionFields := by
    intro line fields matched
    exact exists_name matched

end Checked

end Chronogram
