import Mathlib.Data.List.Forall2

/-!
The first fault of a computation.

A computation that may fail is described by the list of everything that is wrong with its input, in
the order in which it looks: it fails with the first entry of that list, and succeeds if the list is
empty. Doing one computation after another appends their lists.
-/

namespace Chronogram

variable {ε α β : Type}

def fault? : Except ε α → Option ε
  | .error fault => some fault
  | .ok _ => none

@[simp]
theorem fault?_error (fault : ε) : fault? (.error fault : Except ε α) = some fault := rfl

@[simp]
theorem fault?_ok (value : α) : fault? (.ok value : Except ε α) = none := rfl

theorem fault?_eq_some_iff {result : Except ε α} {fault : ε} :
    fault? result = some fault ↔ result = .error fault := by
  cases result <;> simp

theorem fault?_eq_none_iff {result : Except ε α} :
    fault? result = none ↔ ∃ value, result = .ok value := by
  cases result <;> simp

theorem bind_eq_ok_iff {result : Except ε α} {next : α → Except ε β} {last : β} :
    (result >>= next) = .ok last ↔ ∃ value, result = .ok value ∧ next value = .ok last := by
  cases result <;> simp [bind, Except.bind]

theorem mapError_eq_ok_iff {ε' : Type} {f : ε → ε'} {result : Except ε α} {value : α} :
    result.mapError f = .ok value ↔ result = .ok value := by
  cases result <;> simp [Except.mapError]

/-- What the second computation finds counts only if the first one finds nothing. -/
theorem fault?_bind {result : Except ε α} {next : α → Except ε β} {first second : List ε}
    (fails : fault? result = first.head?)
    (continues : ∀ value, result = .ok value → fault? (next value) = second.head?) :
    fault? (result >>= next) = (first ++ second).head? := by
  rw [List.head?_append, ← fails]
  cases result with
  | error fault => rfl
  | ok value =>
      rw [fault?_ok, Option.none_or]
      exact continues value rfl

/-- A computation that only goes on to give its answer fails as before. -/
theorem fault?_bind_ok {result : Except ε α} {answer : α → β} {faults : List ε}
    (fails : fault? result = faults.head?) :
    fault? (result >>= fun value => .ok (answer value)) = faults.head? := by
  rw [← fails]
  cases result <;> rfl

/-- Going through a list finds the faults of its elements in order. -/
theorem fault?_mapM {f : α → Except ε β} {faults : α → List ε} {values : List α}
    (fails : ∀ value ∈ values, fault? (f value) = (faults value).head?) :
    fault? (values.mapM f) = (values.flatMap faults).head? := by
  induction values with
  | nil => rfl
  | cons value rest inductionHypothesis =>
      rw [List.mapM_cons, List.flatMap_cons]
      refine fault?_bind (fails value List.mem_cons_self) fun answer _ => ?_
      exact fault?_bind_ok (inductionHypothesis fun other membership =>
        fails other (List.mem_cons_of_mem value membership))

/-- Going through a list successfully gives an answer for each element. -/
theorem forall₂_of_mapM {f : α → Except ε β} {values : List α} {answers : List β}
    (succeeded : values.mapM f = .ok answers) :
    List.Forall₂ (fun value answer => f value = .ok answer) values answers := by
  induction values generalizing answers with
  | nil =>
      cases succeeded
      exact .nil
  | cons value rest inductionHypothesis =>
      rw [List.mapM_cons] at succeeded
      cases first : f value with
      | error fault => simp [first, bind, Except.bind] at succeeded
      | ok answer =>
          cases remaining : rest.mapM f with
          | error fault => simp [first, remaining, bind, Except.bind] at succeeded
          | ok others =>
              simp only [first, remaining, bind, Except.bind, pure, Except.pure,
                Except.ok.injEq] at succeeded
              subst succeeded
              exact .cons first (inductionHypothesis remaining)

end Chronogram
