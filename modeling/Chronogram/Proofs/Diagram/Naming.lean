import Chronogram.Proofs.Diagram.InPlace
import Chronogram.Proofs.Markup.Escape

/-!
The names of lifelines.

A diagram knows its lifelines by the markup of their names. Escaping makes no two names the same, so
whatever lines were read, the diagram has one lifeline for each name that they declare, in the order
of the first declarations.
-/

namespace Chronogram

open Source Text

/-- The name that a statement declares, without the backslashes that it is written with. -/
def Statement.declaredName? : Statement → Option String
  | .lifeline raw => some (String.ofList (Quoted.unescape raw.toList))
  | _ => none

def Source.Line.declaredName? (line : Line) : Option String :=
  (Statement.read? line.text).bind Statement.declaredName?

def declareName (known : List String) : Option String → List String
  | none => known
  | some name => if plainMarkup name ∈ known then known else known ++ [plainMarkup name]

/-- A declaration adds its name, unless it is there already; no other statement adds names. -/
theorem Diagram.Effect.keys {diagram next : Diagram} {statement : Statement}
    (effect : diagram.Effect statement next) :
    next.lifelines.keys = declareName diagram.lifelines.keys statement.declaredName? := by
  have markup : ∀ raw, plainMarkup (String.ofList (Quoted.unescape raw.toList)) = fieldMarkup raw :=
    fun raw => by simp [plainMarkup, fieldMarkup]
  cases effect with
  | keepLifeline raw known => simp only [declareName, Statement.declaredName?, markup, if_pos known]
  | declare raw fresh =>
      simp only [declareName, Statement.declaredName?, markup, if_neg fresh]
      simp [Table.append, Table.keys]
  | restyle name token style known read => exact Table.keys_modify _ _ _
  | relabel name label token index known read bounded => exact Table.keys_modify _ _ _
  | _ => rfl

theorem declaredName?_of_error {diagram : Diagram} {statement : Statement} {fault : Fault}
    (refused : diagram.apply statement = .error fault) : statement.declaredName? = none := by
  cases statement with
  | lifeline raw => simp [Diagram.apply] at refused
  | _ => rfl

namespace Builder

theorem keys_takeIn (mode : Mode) (draft : Draft) (line : Line) :
    (answer (takeIn mode line) draft).2.diagram.lifelines.keys =
      declareName draft.diagram.lifelines.keys line.declaredName? := by
  rw [answer_takeIn, Line.declaredName?]
  unfold Draft.step
  cases read : Statement.read? line.text with
  | none => cases mode <;> rfl
  | some statement =>
      cases applied : draft.diagram.apply statement with
      | error fault => simp [applied, declaredName?_of_error applied, declareName]
      | ok diagram =>
          simp only [applied, Option.bind_some]
          exact (Diagram.effect_of_apply applied).keys

/-- A diagram has one lifeline for each name that is declared in the lines it is built from,
whichever of them are at fault. -/
theorem keys_feed (mode : Mode) (config : Config) (lines : List Line) :
    (feed mode (Draft.blank config) lines).diagram.lifelines.keys =
      (lines.filterMap Line.declaredName?).eraseDups.map plainMarkup := by
  -- From the end, since the last line meets the names of all lines before it.
  induction lines using List.reverseRecOn with
  | nil => rfl
  | append_singleton earlier line inductionHypothesis =>
      have last : feed mode (Draft.blank config) (earlier ++ [line]) =
          (answer (takeIn mode line) (feed mode (Draft.blank config) earlier)).2 := by
        simp [feed]
      rw [last, keys_takeIn, inductionHypothesis, List.filterMap_append]
      cases declares : line.declaredName? with
      | none => simp [declares, declareName]
      | some name =>
          have known : plainMarkup name ∈
              (earlier.filterMap Line.declaredName?).eraseDups.map plainMarkup ↔
                name ∈ earlier.filterMap Line.declaredName? := by
            rw [List.mem_map_of_injective plainMarkup_injective, List.mem_eraseDups]
          have single : [line].filterMap Line.declaredName? = [name] := by simp [declares]
          simp only [declareName, known, single, Table.eraseDups_concat]
          split <;> simp

end Builder

end Chronogram
