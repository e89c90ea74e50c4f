import Chronogram.Diagram.Draft
import Mathlib.Data.List.Basic

/-!
Strict reading is lenient reading without warnings.

On a statement both modes do the same. On any other line strict reading stops, while lenient reading
leaves a warning and the diagram as it is. So lenient reading is strict reading of the statements
alone, with a warning for each line that was left out, and strict reading stops at the first line
that either stops lenient reading or is no statement.
-/

namespace Chronogram

open Source

def Source.Line.isStatement (line : Line) : Bool :=
  (Statement.read? line.text).isSome

def Source.Line.unrecognized (line : Line) : LineFault :=
  ⟨line.number, .unrecognizedStatement line.text⟩

/-- The warnings for the lines that are no statements. -/
def Source.passedOver (lines : List Line) : List Warning :=
  (lines.filter fun line => !line.isStatement).map fun line => ⟨line.number, line.text⟩

/-- A place at which a line stands that is the first one to be no statement. -/
structure Source.FirstUnrecognized (lines : List Line) (place : Nat) (line : Line) : Prop where
  stands : lines[place]? = some line
  unrecognized : line.isStatement = false
  earlier : ∀ other ∈ lines.take place, other.isStatement = true

/-- A place comes before every place at which something happens. -/
def ComesBefore {α : Type} (place : Nat) (happens : Nat → α → Prop) : Prop :=
  ∀ other event, happens other event → place < other

theorem zero_comesBefore_iff {α : Type} {happens : Nat → α → Prop} :
    ComesBefore 0 happens ↔ ∀ event, ¬happens 0 event := by
  constructor
  · intro before event here
    exact Nat.lt_irrefl 0 (before 0 event here)
  · intro never other event here
    refine Nat.pos_of_ne_zero ?_
    rintro rfl
    exact never event here

theorem succ_comesBefore_iff {α : Type} {place : Nat} {happens : Nat → α → Prop} :
    ComesBefore (place + 1) happens ↔
      (∀ event, ¬happens 0 event) ∧ ComesBefore place fun other => happens (other + 1) := by
  constructor
  · intro before
    refine ⟨fun event here => absurd (before 0 event here) (Nat.not_lt_zero _), ?_⟩
    intro other event there
    exact Nat.lt_of_succ_lt_succ (before (other + 1) event there)
  · rintro ⟨never, before⟩ other event here
    cases other with
    | zero => exact absurd here (never event)
    | succ other => exact Nat.succ_lt_succ (before other event here)

namespace Source

theorem not_firstUnrecognized_nil {place : Nat} {line : Line} :
    ¬FirstUnrecognized [] place line := by
  rintro ⟨stands, -, -⟩
  simp at stands

theorem firstUnrecognized_zero_iff {line other : Line} {rest : List Line} :
    FirstUnrecognized (line :: rest) 0 other ↔ line.isStatement = false ∧ line = other := by
  constructor
  · rintro ⟨stands, unrecognized, -⟩
    obtain rfl := Option.some.inj stands
    exact ⟨unrecognized, rfl⟩
  · rintro ⟨unrecognized, rfl⟩
    exact ⟨rfl, unrecognized, by simp⟩

theorem firstUnrecognized_succ_iff {line other : Line} {rest : List Line} {place : Nat} :
    FirstUnrecognized (line :: rest) (place + 1) other ↔
      line.isStatement = true ∧ FirstUnrecognized rest place other := by
  constructor
  · rintro ⟨stands, unrecognized, earlier⟩
    obtain ⟨first, between⟩ := List.forall_mem_cons.mp earlier
    exact ⟨first, stands, unrecognized, between⟩
  · rintro ⟨first, stands, unrecognized, between⟩
    exact ⟨stands, unrecognized, List.forall_mem_cons.mpr ⟨first, between⟩⟩

theorem passedOver_eq_nil_iff {lines : List Line} :
    passedOver lines = [] ↔ ∀ line ∈ lines, line.isStatement = true := by
  simp [passedOver]

end Source

namespace Draft

/-- Lines are taken in up to a place, and the line that stands there is at fault. -/
def StopsAt (mode : Mode) (draft : Draft) (lines : List Line) (place : Nat) (fault : LineFault) :
    Prop :=
  ∃ line reached, lines[place]? = some line ∧ steps mode draft (lines.take place) = .ok reached ∧
    reached.step mode line = .error fault

variable {mode : Mode} {draft final next : Draft} {line : Line} {lines rest : List Line}
  {place : Nat} {fault : LineFault} {kind : Option StatementKind}

theorem step_strict_of_isStatement (draft : Draft) (statement : line.isStatement = true) :
    draft.step .strict line = draft.step .lenient line := by
  obtain ⟨found, read⟩ := Option.isSome_iff_exists.mp statement
  simp only [step, read]

theorem step_strict_of_unrecognized (draft : Draft) (unread : line.isStatement = false) :
    draft.step .strict line = .error line.unrecognized := by
  have read : Statement.read? line.text = none := by simpa [Line.isStatement] using unread
  simp only [step, read, Line.unrecognized]

theorem step_lenient_of_unrecognized (draft : Draft) (unread : line.isStatement = false) :
    draft.step .lenient line =
      .ok ({ draft with warnings := draft.warnings ++ [⟨line.number, line.text⟩] }, none) := by
  have read : Statement.read? line.text = none := by simpa [Line.isStatement] using unread
  simp only [step, read]

/-- A statement neither looks at the warnings nor adds one. -/
theorem step_withWarnings (mode : Mode) (draft : Draft) (warnings : List Warning)
    (statement : line.isStatement = true) :
    step mode { draft with warnings } line =
      (draft.step mode line).map fun (next, kind) => ({ next with warnings }, kind) := by
  obtain ⟨found, read⟩ := Option.isSome_iff_exists.mp statement
  simp only [step, read]
  cases draft.diagram.apply found <;> rfl

theorem warnings_of_step (statement : line.isStatement = true)
    (taken : draft.step mode line = .ok (next, kind)) : next.warnings = draft.warnings := by
  have same := step_withWarnings mode draft draft.warnings statement
  simp only [taken, Except.map, Except.ok.injEq, Prod.mk.injEq, and_true] at same
  rw [same]

theorem steps_cons_of_ok (taken : draft.step mode line = .ok (next, kind)) :
    steps mode draft (line :: rest) = steps mode next rest := by
  simp only [steps, taken]

theorem steps_cons_of_error (stopped : draft.step mode line = .error fault) :
    steps mode draft (line :: rest) = .error fault := by
  simp only [steps, stopped]

theorem stopsAt_zero_iff :
    StopsAt mode draft (line :: rest) 0 fault ↔ draft.step mode line = .error fault := by
  simp [StopsAt, steps]

theorem stopsAt_succ_iff :
    StopsAt mode draft (line :: rest) (place + 1) fault ↔
      ∃ next kind, draft.step mode line = .ok (next, kind) ∧
        StopsAt mode next rest place fault := by
  simp only [StopsAt, List.getElem?_cons_succ, List.take_succ_cons]
  cases taken : draft.step mode line with
  | error other => simp [steps_cons_of_error taken]
  | ok answer =>
      obtain ⟨next, kind⟩ := answer
      simp [steps_cons_of_ok taken]

theorem steps_eq_error_iff :
    steps mode draft lines = .error fault ↔ ∃ place, StopsAt mode draft lines place fault := by
  induction lines generalizing draft with
  | nil => simp [steps, StopsAt]
  | cons line rest inductionHypothesis =>
      rw [← Nat.or_exists_add_one]
      simp only [stopsAt_zero_iff, stopsAt_succ_iff]
      cases taken : draft.step mode line with
      | error other => simp [steps_cons_of_error taken]
      | ok answer =>
          obtain ⟨next, kind⟩ := answer
          simp [steps_cons_of_ok taken, inductionHypothesis]

/-- What lines that are all statements lead to does not depend on the warnings before them. -/
theorem steps_withWarnings (mode : Mode) (draft : Draft) (warnings : List Warning)
    (statements : ∀ line ∈ lines, line.isStatement = true) :
    steps mode { draft with warnings } lines =
      (steps mode draft lines).map fun final => { final with warnings } := by
  induction lines generalizing draft with
  | nil => rfl
  | cons line rest inductionHypothesis =>
      obtain ⟨statement, statementsRest⟩ := List.forall_mem_cons.mp statements
      have first := step_withWarnings mode draft warnings statement
      cases taken : draft.step mode line with
      | error fault =>
          rw [taken] at first
          rw [steps_cons_of_error taken, steps_cons_of_error first]
          rfl
      | ok answer =>
          obtain ⟨next, kind⟩ := answer
          rw [taken] at first
          rw [steps_cons_of_ok taken, steps_cons_of_ok first]
          exact inductionHypothesis next statementsRest

/-- Lenient reading is strict reading of the statements, with warnings for all other lines. -/
theorem steps_lenient_eq (draft : Draft) (lines : List Line) :
    steps .lenient draft lines =
      (steps .strict draft (lines.filter Line.isStatement)).map fun final =>
        { final with warnings := draft.warnings ++ passedOver lines } := by
  induction lines generalizing draft with
  | nil => simp [steps, passedOver, Except.map]
  | cons line rest inductionHypothesis =>
      cases statement : line.isStatement with
      | false =>
          have kept : ∀ other ∈ rest.filter Line.isStatement, other.isStatement = true :=
            fun other membership => (List.mem_filter.mp membership).2
          have left : (line :: rest).filter Line.isStatement = rest.filter Line.isStatement :=
            List.filter_cons_of_neg (by simp [statement])
          rw [steps_cons_of_ok (step_lenient_of_unrecognized draft statement), inductionHypothesis,
            steps_withWarnings .strict draft _ kept, left]
          cases steps .strict draft (rest.filter Line.isStatement) with
          | error fault => rfl
          | ok final => simp [passedOver, statement, Except.map]
      | true =>
          have same := step_strict_of_isStatement draft statement
          have others : passedOver (line :: rest) = passedOver rest := by
            simp [passedOver, statement]
          rw [List.filter_cons_of_pos statement, others]
          cases taken : draft.step .lenient line with
          | error fault =>
              rw [steps_cons_of_error taken, steps_cons_of_error (same.trans taken)]
              rfl
          | ok answer =>
              obtain ⟨next, kind⟩ := answer
              rw [steps_cons_of_ok taken, steps_cons_of_ok (same.trans taken), inductionHypothesis,
                warnings_of_step statement taken]

theorem warnings_of_steps_lenient (taken : steps .lenient draft lines = .ok final) :
    final.warnings = draft.warnings ++ passedOver lines := by
  rw [steps_lenient_eq] at taken
  cases strict : steps .strict draft (lines.filter Line.isStatement) with
  | error fault => simp [strict, Except.map] at taken
  | ok reached =>
      rw [strict] at taken
      cases taken
      rfl

theorem steps_strict_of_isStatement (statements : ∀ line ∈ lines, line.isStatement = true) :
    steps .strict draft lines = steps .lenient draft lines := by
  induction lines generalizing draft with
  | nil => rfl
  | cons line rest inductionHypothesis =>
      obtain ⟨statement, statementsRest⟩ := List.forall_mem_cons.mp statements
      simp only [steps, step_strict_of_isStatement draft statement,
        inductionHypothesis statementsRest]

theorem isStatement_of_steps_strict (taken : steps .strict draft lines = .ok final) :
    ∀ line ∈ lines, line.isStatement = true := by
  induction lines generalizing draft with
  | nil => simp
  | cons line rest inductionHypothesis =>
      cases first : draft.step .strict line with
      | error fault => simp [steps_cons_of_error first] at taken
      | ok answer =>
          obtain ⟨next, kind⟩ := answer
          rw [steps_cons_of_ok first] at taken
          refine List.forall_mem_cons.mpr ⟨?_, inductionHypothesis taken⟩
          cases statement : line.isStatement with
          | false => simp [step_strict_of_unrecognized draft statement] at first
          | true => rfl

theorem steps_strict_eq_ok_iff (config : Config) (lines : List Line) (final : Draft) :
    steps .strict (blank config) lines = .ok final ↔
      steps .lenient (blank config) lines = .ok final ∧ final.warnings = [] := by
  constructor
  · intro strict
    have statements := isStatement_of_steps_strict strict
    rw [steps_strict_of_isStatement statements] at strict
    refine ⟨strict, (warnings_of_steps_lenient strict).trans ?_⟩
    exact passedOver_eq_nil_iff.mpr statements
  · rintro ⟨lenient, unwarned⟩
    have none : passedOver lines = [] := (warnings_of_steps_lenient lenient).symm.trans unwarned
    exact (steps_strict_of_isStatement (passedOver_eq_nil_iff.mp none)).trans lenient

theorem comesBefore_stopsAt_iff (taken : draft.step mode line = .ok (next, kind)) :
    ComesBefore (place + 1) (StopsAt mode draft (line :: rest)) ↔
      ComesBefore place (StopsAt mode next rest) := by
  rw [succ_comesBefore_iff]
  simp [ComesBefore, stopsAt_zero_iff, stopsAt_succ_iff, taken]

theorem comesBefore_firstUnrecognized_iff (statement : line.isStatement = true) :
    ComesBefore (place + 1) (FirstUnrecognized (line :: rest)) ↔
      ComesBefore place (FirstUnrecognized rest) := by
  rw [succ_comesBefore_iff]
  simp [ComesBefore, firstUnrecognized_zero_iff, firstUnrecognized_succ_iff, statement]

/-- Strict reading stops where lenient reading stops, unless a line that is no statement stands
before, and at the first such line otherwise. -/
theorem stopsAt_strict_iff :
    StopsAt .strict draft lines place fault ↔
      (StopsAt .lenient draft lines place fault ∧ ComesBefore place (FirstUnrecognized lines)) ∨
      (∃ line, FirstUnrecognized lines place line ∧ fault = line.unrecognized ∧
        ComesBefore place (StopsAt .lenient draft lines)) := by
  induction lines generalizing draft place with
  | nil => simp [StopsAt, not_firstUnrecognized_nil]
  | cons line rest inductionHypothesis =>
      cases statement : line.isStatement with
      | false =>
          -- Strict reading stops here, and lenient reading goes on.
          have strict := step_strict_of_unrecognized draft statement
          have lenient := step_lenient_of_unrecognized draft statement
          cases place with
          | zero =>
              simp [zero_comesBefore_iff, stopsAt_zero_iff, firstUnrecognized_zero_iff, strict,
                lenient, statement, eq_comm]
          | succ place =>
              simp [succ_comesBefore_iff, stopsAt_succ_iff, firstUnrecognized_zero_iff,
                firstUnrecognized_succ_iff, strict, statement]
      | true =>
          have same := step_strict_of_isStatement draft statement
          cases place with
          | zero =>
              simp [zero_comesBefore_iff, stopsAt_zero_iff, firstUnrecognized_zero_iff, same,
                statement]
          | succ place =>
              cases taken : draft.step .lenient line with
              | error other =>
                  simp [succ_comesBefore_iff, stopsAt_zero_iff, stopsAt_succ_iff, same, taken]
              | ok answer =>
                  obtain ⟨next, kind⟩ := answer
                  simp [comesBefore_stopsAt_iff taken, comesBefore_firstUnrecognized_iff statement,
                    stopsAt_succ_iff, firstUnrecognized_succ_iff, same, statement, taken,
                    inductionHypothesis]

theorem steps_lenient_eq_ok_iff (config : Config) (lines : List Line) (final : Draft) :
    steps .lenient (blank config) lines = .ok final ↔
      final.warnings = passedOver lines ∧
      steps .strict (blank config) (lines.filter Line.isStatement) = .ok ⟨final.diagram, []⟩ := by
  constructor
  · intro lenient
    have warned := warnings_of_steps_lenient lenient
    refine ⟨warned, ?_⟩
    rw [steps_lenient_eq] at lenient
    cases strict : steps .strict (blank config) (lines.filter Line.isStatement) with
    | error fault => simp [strict, Except.map] at lenient
    | ok reached =>
        have unwarned : reached.warnings = [] := ((steps_strict_eq_ok_iff _ _ _).mp strict).2
        rw [strict] at lenient
        cases lenient
        rw [← unwarned]
  · rintro ⟨warned, strict⟩
    rw [steps_lenient_eq, strict, ← warned]
    rfl

/-- Strict reading is lenient reading without warnings. It gives a diagram where lenient reading
gives it without a warning. Otherwise it stops at the line at which lenient reading stops, with the
same fault, or at the first line that is no statement, whichever comes first. Where lenient reading
succeeds, its warnings are the lines that are no statements, and strict reading of the other lines
gives its diagram. -/
theorem strict_is_lenient_without_warnings (config : Config) (lines : List Line) :
    (∀ final, steps .strict (blank config) lines = .ok final ↔
      steps .lenient (blank config) lines = .ok final ∧ final.warnings = []) ∧
    (∀ fault, steps .strict (blank config) lines = .error fault ↔ ∃ place,
      (StopsAt .lenient (blank config) lines place fault ∧
        ComesBefore place (FirstUnrecognized lines)) ∨
      (∃ line, FirstUnrecognized lines place line ∧ fault = line.unrecognized ∧
        ComesBefore place (StopsAt .lenient (blank config) lines))) ∧
    (∀ fault, steps .lenient (blank config) lines = .error fault ↔
      ∃ place, StopsAt .lenient (blank config) lines place fault) ∧
    (∀ final, steps .lenient (blank config) lines = .ok final ↔
      final.warnings = passedOver lines ∧
      steps .strict (blank config) (lines.filter Line.isStatement) =
        .ok ⟨final.diagram, []⟩) := by
  refine ⟨steps_strict_eq_ok_iff config lines, fun fault => ?_, fun fault => steps_eq_error_iff,
    steps_lenient_eq_ok_iff config lines⟩
  rw [steps_eq_error_iff]
  exact exists_congr fun place => stopsAt_strict_iff

end Draft

end Chronogram
