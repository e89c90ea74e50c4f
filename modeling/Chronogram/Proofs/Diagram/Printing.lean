import Chronogram.Compiler
import Chronogram.Proofs.Diagram.Building
import Chronogram.Proofs.Diagram.Catalog
import Chronogram.Proofs.Source.Unchanged
import Chronogram.Proofs.Text.Numeral
import Mathlib.Algebra.Group.Nat.Defs

/-!
Printing diagrams.

A diagram can be printed if its texts stand on one line and its numbers are within the limits of the
statements. Every statement that is printed for it can be written, so the text of the diagram is
read as exactly these statements, whichever way lines that are no statements are treated.
-/

namespace Chronogram

open Text

/-- A text without line feeds. -/
def OneLine (text : String) : Prop :=
  '\n' ∉ text.toList

instance (text : String) : Decidable (OneLine text) :=
  inferInstanceAs (Decidable (_ ∉ _))

/-- A lifeline with texts of one line each and with states that are not too many. -/
structure Lifeline.Printable (lifeline : Lifeline) : Prop where
  name : OneLine lifeline.name
  compact : lifeline.states.Compact
  labels : ∀ entry ∈ lifeline.states.labels, entry.1 ≤ 4096 ∧ OneLine entry.2

/-- An observation of a declared lifeline that is not too late. -/
structure Tick.Printable (lifelines : Table Lifeline) (tick : Tick) : Prop where
  time : tick.time ≤ 100000
  declared : tick.lifeline ∈ lifelines.keys
  state : tick.state < 2 ^ 64

/-- A span with texts of one line each, between any two times. -/
structure Span.Printable (span : Span) : Prop where
  lifeline : OneLine span.lifeline
  originTick : span.originTick < 2 ^ 64
  destTick : span.destTick < 2 ^ 64
  label : OneLine span.label

/-- An arrow end with a name of one line. -/
structure ArrowEnd.Printable (arrowEnd : ArrowEnd) : Prop where
  lifeline : OneLine arrowEnd.lifeline
  tick : arrowEnd.tick < 2 ^ 64
  slot : arrowEnd.slot < 2 ^ 64

/-- An arrow with texts of one line each; without a label there is no position. -/
structure Arrow.Printable (arrow : Arrow) : Prop where
  origin : arrow.origin.Printable
  dest : arrow.dest.Printable
  label : ∀ label ∈ arrow.label, OneLine label
  lower : -(2 ^ 63) ≤ arrow.labelPosition
  upper : arrow.labelPosition < 2 ^ 63
  unlabelled : arrow.label = none → arrow.labelPosition = 0

/-- A diagram whose texts are raw and all of whose parts can be printed. -/
structure Diagram.Printable (diagram : Diagram) : Prop where
  named : diagram.Named
  title : OneLine diagram.title
  lifelines : ∀ lifeline ∈ diagram.lifelines.values, lifeline.Printable
  ticks : ∀ tick ∈ diagram.ticks, tick.Printable diagram.lifelines
  spans : ∀ span ∈ diagram.spans, span.Printable
  arrows : ∀ arrow ∈ diagram.arrows, arrow.Printable

instance (lifeline : Lifeline) : Decidable lifeline.Printable :=
  decidable_of_iff (_ ∧ _ ∧ _)
    ⟨fun ⟨name, compact, labels⟩ => ⟨name, compact, labels⟩,
      fun ⟨name, compact, labels⟩ => ⟨name, compact, labels⟩⟩

instance (lifelines : Table Lifeline) (tick : Tick) : Decidable (tick.Printable lifelines) :=
  decidable_of_iff (_ ∧ _ ∧ _)
    ⟨fun ⟨time, declared, state⟩ => ⟨time, declared, state⟩,
      fun ⟨time, declared, state⟩ => ⟨time, declared, state⟩⟩

instance (span : Span) : Decidable span.Printable :=
  decidable_of_iff (_ ∧ _ ∧ _ ∧ _)
    ⟨fun ⟨lifeline, origin, dest, label⟩ => ⟨lifeline, origin, dest, label⟩,
      fun ⟨lifeline, origin, dest, label⟩ => ⟨lifeline, origin, dest, label⟩⟩

instance (arrowEnd : ArrowEnd) : Decidable arrowEnd.Printable :=
  decidable_of_iff (_ ∧ _ ∧ _)
    ⟨fun ⟨lifeline, tick, slot⟩ => ⟨lifeline, tick, slot⟩,
      fun ⟨lifeline, tick, slot⟩ => ⟨lifeline, tick, slot⟩⟩

instance (arrow : Arrow) : Decidable arrow.Printable :=
  decidable_of_iff (_ ∧ _ ∧ _ ∧ _ ∧ _ ∧ _)
    ⟨fun ⟨origin, dest, label, lower, upper, unlabelled⟩ =>
        ⟨origin, dest, label, lower, upper, unlabelled⟩,
      fun ⟨origin, dest, label, lower, upper, unlabelled⟩ =>
        ⟨origin, dest, label, lower, upper, unlabelled⟩⟩

instance (diagram : Diagram) : Decidable diagram.Printable :=
  decidable_of_iff (_ ∧ _ ∧ _ ∧ _ ∧ _ ∧ _)
    ⟨fun ⟨named, title, lifelines, ticks, spans, arrows⟩ =>
        ⟨named, title, lifelines, ticks, spans, arrows⟩,
      fun ⟨named, title, lifelines, ticks, spans, arrows⟩ =>
        ⟨named, title, lifelines, ticks, spans, arrows⟩⟩

theorem isField_rawField {text : String} (oneLine : OneLine text) : IsField (rawField text) := by
  have feedless : ∀ text : List Char, '\n' ∉ text → '\n' ∉ Quoted.escape text := by
    intro text feedless
    induction text with
    | nil => simp [Quoted.escape]
    | cons c rest inductionHypothesis =>
        simp only [List.mem_cons, not_or] at feedless
        have behind := inductionHypothesis feedless.2
        unfold Quoted.escape
        split <;> simp [feedless.1, behind]
  unfold IsField rawField
  rw [String.toList_ofList]
  exact ⟨Quoted.raw_escape _, feedless _ oneLine⟩

theorem isRow_ofNat (n : Nat) : IsRow isDigit (Numeral.ofNat n) :=
  ⟨Numeral.ofNat_ne_nil n, fun _ membership =>
    Numeral.isDigit_of_ascii (Numeral.isDigit_of_mem_ofNat membership)⟩

theorem isRow_numberField (n : Nat) : IsRow isDigit (numberField n).toList := by
  rw [numberField, String.toList_ofList]
  exact isRow_ofNat n

theorem isPosition_ofInt (n : Int) : IsPosition (Numeral.ofInt n) := by
  cases n with
  | ofNat n => exact ⟨_, isRow_ofNat n, .inl rfl⟩
  | negSucc n => exact ⟨_, isRow_ofNat (n + 1), .inr rfl⟩

theorem Lifeline.writable_statements {lifeline : Lifeline} (printable : lifeline.Printable) :
    ∀ statement ∈ lifeline.statements, statement.Writable := by
  have isName := isField_rawField printable.name
  have isStyle : IsRow isWordChar lifeline.style.name.toList := by
    cases lifeline.style <;> exact ⟨by decide, List.all_eq_true.mp (by decide)⟩
  unfold statements
  refine List.forall_mem_cons.mpr ⟨isName, List.forall_mem_cons.mpr ⟨⟨isName, isStyle⟩, ?_⟩⟩
  intro statement membership
  obtain ⟨entry, labelled, rfl⟩ := List.mem_map.mp membership
  have oneLine := (printable.labels entry labelled).2
  exact ⟨isName, isField_rawField oneLine, isRow_numberField _⟩

theorem ArrowEnd.writable_fields {arrowEnd : ArrowEnd} (printable : arrowEnd.Printable) :
    arrowEnd.fields.Writable := by
  refine ⟨isRow_numberField _, isField_rawField printable.lifeline, ?_⟩
  rintro digits same
  obtain rfl := Option.some.inj same
  exact isRow_numberField _

theorem Arrow.writable_statement {arrow : Arrow} (printable : arrow.Printable) :
    arrow.statement.Writable := by
  refine ⟨arrow.origin.writable_fields printable.origin,
    arrow.dest.writable_fields printable.dest, ?_⟩
  intro fields found
  obtain ⟨label, labelled, rfl⟩ := Option.map_eq_some_iff.mp found
  refine ⟨isField_rawField (printable.label label labelled), ?_⟩
  rintro token same
  obtain rfl := Option.some.inj same
  rw [String.toList_ofList]
  exact isPosition_ofInt arrow.labelPosition

namespace Diagram

variable {diagram : Diagram}

theorem Printable.oneLine_of_mem_keys (printable : diagram.Printable) {name : String}
    (declared : name ∈ diagram.lifelines.keys) : OneLine name := by
  obtain ⟨entry, stored, rfl⟩ := List.mem_map.mp declared
  rw [← printable.named entry stored]
  exact (printable.lifelines entry.2 (List.mem_map_of_mem stored)).name

theorem writable_statements (printable : diagram.Printable) :
    ∀ statement ∈ diagram.statements, statement.Writable := by
  unfold statements
  refine List.forall_mem_cons.mpr ⟨isField_rawField printable.title, ?_⟩
  simp only [List.forall_mem_append, List.forall_mem_map, List.mem_flatMap]
  refine ⟨⟨⟨?_, fun tick membership => ?_⟩, fun span membership => ?_⟩, fun arrow membership => ?_⟩
  · rintro statement ⟨lifeline, membership, stated⟩
    exact Lifeline.writable_statements (printable.lifelines lifeline membership) statement stated
  · have oneLine := printable.oneLine_of_mem_keys (printable.ticks tick membership).declared
    have isState := isRow_numberField tick.state
    exact ⟨isRow_numberField _, isField_rawField oneLine, isState.1,
      fun c inside => isTokenChar_of_isDigit (isState.2 c inside)⟩
  · have span := printable.spans span membership
    exact ⟨isField_rawField span.lifeline, isRow_numberField _, isRow_numberField _,
      isField_rawField span.label⟩
  · exact Arrow.writable_statement (printable.arrows arrow membership)

end Diagram

/-- Lines that have been written for statements are carried out as these statements, and none of
them is passed over. -/
theorem Draft.steps_written {mode : Mode} {draft : Draft} {statements : List Statement}
    {next : Diagram} (writable : ∀ statement ∈ statements, statement.Writable)
    (applied : statements.foldlM Diagram.apply draft.diagram = .ok next) (number : Nat) :
    steps mode draft ((statements.zipIdx number).map fun (statement, number) =>
      ⟨number, String.ofList statement.write⟩) = .ok { draft with diagram := next } := by
  induction statements generalizing draft number with
  | nil =>
      cases applied
      rfl
  | cons statement rest inductionHypothesis =>
      obtain ⟨writableFirst, writableRest⟩ := List.forall_mem_cons.mp writable
      rw [List.foldlM_cons] at applied
      obtain ⟨diagram, first, appliedRest⟩ := bind_eq_ok_iff.mp applied
      have taken : draft.step mode ⟨number, String.ofList statement.write⟩ =
          .ok ({ draft with diagram }, some statement.kind) := by
        simp only [step, Statement.read?_write writableFirst, first]
      simp only [List.zipIdx_cons, List.map_cons, steps, taken]
      exact inductionHypothesis writableRest appliedRest (number + 1)

/-- The text of some statements is read as what these statements make of a blank diagram. -/
theorem Settings.draft_textOf (settings : Settings) {statements : List Statement} {next : Diagram}
    (writable : ∀ statement ∈ statements, statement.Writable)
    (applied : statements.foldlM Diagram.apply (Diagram.blank settings.site) = .ok next) :
    settings.draft (Source.Script.textOf statements) = .ok ⟨next, []⟩ := by
  rw [draft, Source.lines_ofText_textOf writable]
  exact Draft.steps_written writable applied 1

end Chronogram
