import Chronogram.Compiler

/-!
Line numbers are only carried along.

A line number comes out again in the warning or the fault of its line and is never looked at. So
reading lines under other numbers gives the same diagram, or the same fault, with the other numbers.
-/

namespace Chronogram

open Source

def Source.Line.renumber (f : Nat → Nat) (line : Line) : Line :=
  { line with number := f line.number }

def Warning.renumber (f : Nat → Nat) (warning : Warning) : Warning :=
  { warning with line := f warning.line }

def LineFault.renumber (f : Nat → Nat) (error : LineFault) : LineFault :=
  { error with line := f error.line }

namespace Draft

def renumber (f : Nat → Nat) (draft : Draft) : Draft :=
  { draft with warnings := draft.warnings.map (Warning.renumber f) }

/-- What reading comes to, with other line numbers. -/
def renumberResult (f : Nat → Nat) : Except LineFault Draft → Except LineFault Draft
  | .ok draft => .ok (draft.renumber f)
  | .error error => .error (error.renumber f)

/-- Two results that differ in line numbers at most: both have the same diagram and warnings of the
same texts, or both have the same fault. -/
def AgreeUpToNumbers : Except LineFault Draft → Except LineFault Draft → Prop
  | .ok draft, .ok other =>
      draft.diagram = other.diagram ∧
      draft.warnings.map Warning.text = other.warnings.map Warning.text
  | .error error, .error other => error.fault = other.fault
  | _, _ => False

variable {mode : Mode} {draft other : Draft} {line : Line} {lines : List Line}

theorem step_renumber (f : Nat → Nat) (mode : Mode) (draft : Draft) (line : Line) :
    (draft.renumber f).step mode (line.renumber f) =
      match draft.step mode line with
      | .ok (next, kind) => .ok (next.renumber f, kind)
      | .error error => .error (error.renumber f) := by
  simp only [step, Line.renumber]
  cases Statement.read? line.text with
  | some statement =>
      simp only [renumber]
      cases draft.diagram.apply statement <;> rfl
  | none =>
      cases mode with
      | strict => rfl
      | lenient => simp [renumber, Warning.renumber]

theorem steps_renumber (f : Nat → Nat) (mode : Mode) (draft : Draft) (lines : List Line) :
    steps mode (draft.renumber f) (lines.map (Line.renumber f)) =
      renumberResult f (steps mode draft lines) := by
  induction lines generalizing draft with
  | nil => rfl
  | cons line rest inductionHypothesis =>
      simp only [List.map_cons, steps, step_renumber]
      cases draft.step mode line with
      | error fault => rfl
      | ok answer => exact inductionHypothesis answer.1

theorem renumber_blank (f : Nat → Nat) (config : Config) :
    (blank config).renumber f = blank config := rfl

theorem map_text_renumber (f : Nat → Nat) (warnings : List Warning) :
    (warnings.map (Warning.renumber f)).map Warning.text = warnings.map Warning.text := by
  simp [Warning.renumber, Function.comp_def]

/-- Results that are the same once all numbers are the same differ in numbers at most. -/
theorem agreeUpToNumbers_of_renumber {first second : Except LineFault Draft} {f : Nat → Nat}
    (same : renumberResult f first = renumberResult f second) : AgreeUpToNumbers first second := by
  cases first with
  | error fault =>
      cases second with
      | error other =>
          have faults := congrArg LineFault.fault (Except.error.inj same)
          exact faults
      | ok other => cases same
  | ok draft =>
      cases second with
      | error fault => cases same
      | ok other =>
          have drafts := Except.ok.inj same
          have diagrams := congrArg Draft.diagram drafts
          have warned := congrArg (fun draft => draft.warnings.map Warning.text) drafts
          exact ⟨diagrams, by simpa only [renumber, map_text_renumber] using warned⟩

theorem map_renumber_zero (lines : List Line) :
    lines.map (Line.renumber fun _ => 0) = (lines.map Line.text).map (Line.mk 0) := by
  rw [List.map_map]
  rfl

theorem agreeUpToNumbers_of_texts {config : Config} {others : List Line}
    (same : lines.map Line.text = others.map Line.text) :
    AgreeUpToNumbers (steps mode (blank config) lines) (steps mode (blank config) others) := by
  refine agreeUpToNumbers_of_renumber (f := fun _ => 0) ?_
  rw [← steps_renumber, ← steps_renumber, map_renumber_zero, map_renumber_zero, same]

end Draft

end Chronogram
