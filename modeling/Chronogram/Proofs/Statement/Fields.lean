import Chronogram.Proofs.Statement.Pattern

/-!
The fields of statements.

The fields of a statement have the numbers that the form of its kind gives them, and together with
the kind they tell the whole statement.
-/

namespace Chronogram

def EndFields.fields (fields : EndFields) (number : Nat) : Fields :=
  [(number, fields.tick.toList), (number + 1, fields.lifeline.toList)] ++
    fields.slot.toList.map fun digits => (number + 2, digits.toList)

def LabelFields.fields (fields : LabelFields) (number : Nat) : Fields :=
  (number, fields.text.toList) ::
    fields.position.toList.map fun digits => (number + 1, digits.toList)

def ArrowStyle.field : ArrowStyle → List Char
  | .solid => ['-', '>']
  | .dashed => ['=', '>']

def LabelSide.field : LabelSide → List Char
  | .left => ['L']
  | .right => ['R']

def ArrowFields.fields (arrow : ArrowFields) : Fields :=
  arrow.origin.fields 1 ++ (4, arrow.style.field) :: arrow.dest.fields 5 ++
    (arrow.label.toList.flatMap fun label => label.fields 8) ++
    arrow.side.toList.map fun side => (10, side.field)

def StateField.field : StateField → Nat × List Char
  | .quoted raw => (3, raw.toList)
  | .bare token => (4, token.toList)

/-- The fields of a statement with the numbers that they have in the form of its kind. -/
def Statement.fields : Statement → Fields
  | .config key value => [(1, key.toList), (2, value.toList)]
  | .title text => [(1, text.toList)]
  | .lifeline name => [(1, name.toList)]
  | .style name token => [(1, name.toList), (2, token.toList)]
  | .state name label index => [(1, name.toList), (2, label.toList), (3, index.toList)]
  | .span name originTick destTick label =>
      [(1, name.toList), (2, originTick.toList), (3, destTick.toList), (4, label.toList)]
  | .arrow fields => fields.fields
  | .tick time name observed => [(1, time.toList), (2, name.toList), observed.field]

theorem ArrowStyle.field_injective : Function.Injective ArrowStyle.field := by
  intro style style' same
  cases style <;> cases style' <;> first | rfl | exact absurd same (by decide)

theorem LabelSide.field_injective : Function.Injective LabelSide.field := by
  intro side side' same
  cases side <;> cases side' <;> first | rfl | exact absurd same (by decide)

/-- Every part of an arrow stands under a number of its own. -/
theorem ArrowFields.lookup_fields (arrow : ArrowFields) :
    (arrow.fields.lookup 1 = some arrow.origin.tick.toList ∧
      arrow.fields.lookup 2 = some arrow.origin.lifeline.toList ∧
      arrow.fields.lookup 3 = arrow.origin.slot.map String.toList) ∧
    arrow.fields.lookup 4 = some arrow.style.field ∧
    (arrow.fields.lookup 5 = some arrow.dest.tick.toList ∧
      arrow.fields.lookup 6 = some arrow.dest.lifeline.toList ∧
      arrow.fields.lookup 7 = arrow.dest.slot.map String.toList) ∧
    (arrow.fields.lookup 8 = arrow.label.map fun label => label.text.toList) ∧
    arrow.fields.lookup 9 = (arrow.label.bind LabelFields.position).map String.toList ∧
    arrow.fields.lookup 10 = arrow.side.map LabelSide.field := by
  obtain ⟨⟨tick, name, slot⟩, style, ⟨tick', name', slot'⟩, label, side⟩ := arrow
  rcases slot with _ | slot <;> rcases slot' with _ | slot' <;>
    rcases label with _ | ⟨text, _ | position⟩ <;> rcases side with _ | side <;>
    simp [ArrowFields.fields, EndFields.fields, LabelFields.fields, List.lookup_cons]

theorem token_injective : Function.Injective (Option.map String.toList) :=
  Option.map_injective fun _ _ => String.toList_injective

theorem EndFields.eq_of_tokens {origin dest : EndFields}
    (tick : origin.tick.toList = dest.tick.toList)
    (lifeline : origin.lifeline.toList = dest.lifeline.toList)
    (slot : origin.slot.map String.toList = dest.slot.map String.toList) : origin = dest := by
  cases origin
  cases dest
  simp only [EndFields.mk.injEq]
  exact ⟨String.toList_injective tick, String.toList_injective lifeline, token_injective slot⟩

theorem LabelFields.eq_of_tokens {label label' : Option LabelFields}
    (text : (label.map fun label => label.text.toList) = label'.map fun label => label.text.toList)
    (position : (label.bind LabelFields.position).map String.toList =
      (label'.bind LabelFields.position).map String.toList) : label = label' := by
  have samePosition := token_injective position
  cases label with
  | none =>
      cases label' with
      | none => rfl
      | some label' => simp at text
  | some label =>
      cases label' with
      | none => simp at text
      | some label' =>
          obtain ⟨text₁, position₁⟩ := label
          obtain ⟨text₂, position₂⟩ := label'
          have sameText : text₁ = text₂ := String.toList_injective (Option.some.inj text)
          obtain rfl : position₁ = position₂ := samePosition
          rw [sameText]

theorem ArrowFields.fields_injective : Function.Injective ArrowFields.fields := by
  intro arrow arrow' same
  obtain ⟨⟨tick, name, slot⟩, style, ⟨tick', name', slot'⟩, text, position, side⟩ :=
    arrow.lookup_fields
  rw [same] at tick name slot style tick' name' slot' text position side
  have other := arrow'.lookup_fields
  simp only [tick, name, slot, style, tick', name', slot', text, position, side,
    Option.some.injEq] at other
  obtain ⟨⟨tick, name, slot⟩, style, ⟨tick', name', slot'⟩, text, position, side⟩ := other
  cases arrow
  cases arrow'
  simp only [ArrowFields.mk.injEq]
  exact ⟨EndFields.eq_of_tokens tick name slot, ArrowStyle.field_injective style,
    EndFields.eq_of_tokens tick' name' slot', LabelFields.eq_of_tokens text position,
    Option.map_injective LabelSide.field_injective side⟩

theorem StateField.field_injective : Function.Injective StateField.field := by
  intro observed observed' same
  cases observed <;> cases observed' <;>
    simp [StateField.field, String.toList_inj] at same <;> rw [same]

theorem Statement.eq_of_fields_eq {statement statement' : Statement}
    (sameKind : statement.kind = statement'.kind)
    (sameFields : statement.fields = statement'.fields) : statement = statement' := by
  cases statement <;> cases statement' <;> cases sameKind
  case arrow.arrow => rw [ArrowFields.fields_injective sameFields]
  case tick.tick =>
    simp only [Statement.fields, List.cons.injEq, Prod.mk.injEq, String.toList_inj, true_and,
      and_true] at sameFields
    obtain ⟨time, name, observed⟩ := sameFields
    rw [time, name, StateField.field_injective observed]
  all_goals simpa [Statement.fields, String.toList_inj] using sameFields

end Chronogram
