import Chronogram.Text.Numeral
import Mathlib.Algebra.GroupWithZero.Nat
import Mathlib.Data.List.Basic

/-!
Steps that are not always possible.

A machine word has an end, a list has a last element, and nothing can be divided by zero. A checked
step looks first and gives a trap where it cannot be taken; a trap is never an answer to the author
of a text. So a guarded computation can end in three ways: with a value, with a fault of the text,
or in a trap. It yields an answer if it meets no trap on the way there.
-/

namespace Chronogram

open Text

inductive Trap where
  /-- A field is read that has no part in the split of its line. -/
  | absentField (number : Nat)
  | outOfRange (index length : Nat)
  /-- A text is cut inside a character, or behind its end. -/
  | badCut (position : Nat)
  | overflow (first second : Nat)
  | underflow (minuend subtrahend : Nat)
  | zeroDivisor (dividend : Nat)
  | zeroStep
  /-- A line that has been read has the forms of several kinds, or of none. -/
  | notExclusive (count : Nat)
  deriving Repr, DecidableEq

/-- A step that can be taken, or a trap. -/
abbrev Checked (α : Type) : Type :=
  Except Trap α

namespace Checked

variable {α β : Type}

def plus (first second : Nat) : Checked Nat :=
  if first + second < Numeral.wordBound then .ok (first + second)
  else .error (.overflow first second)

def minus (minuend subtrahend : Nat) : Checked Nat :=
  if subtrahend ≤ minuend then .ok (minuend - subtrahend)
  else .error (.underflow minuend subtrahend)

def remainder (dividend divisor : Nat) : Checked Nat :=
  if divisor = 0 then .error (.zeroDivisor dividend) else .ok (dividend % divisor)

def element (values : List α) (index : Nat) : Checked α :=
  match values[index]? with
  | some value => .ok value
  | none => .error (.outOfRange index values.length)

def replace (values : List α) (index : Nat) (value : α) : Checked (List α) :=
  if index < values.length then .ok (values.set index value)
  else .error (.outOfRange index values.length)

/-- The part of a text in front of a position, which counts bytes. -/
def front (text : List Char) (position : Nat) : Checked (List Char) :=
  match text, position with
  | _, 0 => .ok []
  | [], position + 1 => .error (.badCut (position + 1))
  | c :: rest, position + 1 =>
      if c.utf8Size ≤ position + 1 then do
        let others ← front rest (position + 1 - c.utf8Size)
        .ok (c :: others)
      else .error (.badCut (position + 1))

/-- The numbers below a bound in steps of one length, starting from zero. -/
def stepped (bound step : Nat) : Checked (List Nat) :=
  if step = 0 then .error .zeroStep
  else .ok ((List.range ((bound + (step - 1)) / step)).map (· * step))

theorem plus_of_lt {first second : Nat} (fits : first + second < Numeral.wordBound) :
    plus first second = .ok (first + second) :=
  if_pos fits

theorem minus_of_le {minuend subtrahend : Nat} (enough : subtrahend ≤ minuend) :
    minus minuend subtrahend = .ok (minuend - subtrahend) :=
  if_pos enough

theorem remainder_of_pos {dividend divisor : Nat} (positive : 0 < divisor) :
    remainder dividend divisor = .ok (dividend % divisor) :=
  if_neg (Nat.ne_of_gt positive)

theorem element_of_getElem? {values : List α} {index : Nat} {value : α}
    (here : values[index]? = some value) : element values index = .ok value := by
  rw [element, here]

theorem replace_of_lt {values : List α} {index : Nat} (within : index < values.length) (value : α) :
    replace values index value = .ok (values.set index value) :=
  if_pos within

/-- A text may be cut in front of each of its characters. -/
theorem front_append (before after : List Char) :
    front (before ++ after) (before.map Char.utf8Size).sum = .ok before := by
  induction before with
  | nil =>
      cases after <;> rfl
  | cons c rest inductionHypothesis =>
      obtain ⟨size, sized⟩ := Nat.exists_eq_add_one.mpr c.utf8Size_pos
      have total : ((c :: rest).map Char.utf8Size).sum = size + (rest.map Char.utf8Size).sum + 1 := by
        rw [List.map_cons, List.sum_cons, sized]
        omega
      have remaining : size + (rest.map Char.utf8Size).sum + 1 - c.utf8Size =
          (rest.map Char.utf8Size).sum := by omega
      rw [total, List.cons_append, front, if_pos (by omega), remaining, inductionHypothesis]
      rfl

theorem rounded_up {bound step : Nat} (positive : 0 < step) :
    (bound + (step - 1)) / step =
      if bound % step = 0 then bound / step else bound / step + 1 := by
  have split : step * (bound / step) + bound % step = bound := Nat.div_add_mod bound step
  have small : bound % step < step := Nat.mod_lt bound positive
  by_cases multiple : bound % step = 0
  · rw [if_pos multiple]
    apply Nat.div_eq_of_lt_le
    · rw [Nat.mul_comm]
      omega
    · rw [Nat.add_mul, Nat.mul_comm, Nat.one_mul]
      omega
  · rw [if_neg multiple]
    apply Nat.div_eq_of_lt_le
    · rw [Nat.add_mul, Nat.mul_comm, Nat.one_mul]
      omega
    · rw [Nat.add_mul, Nat.add_mul, Nat.mul_comm, Nat.one_mul]
      omega

/-- Going on in steps that have a length finds the multiples of that length. -/
theorem stepped_of_pos {bound step : Nat} (positive : 0 < step) :
    stepped bound step = .ok ((List.range bound).filter fun number => number % step == 0) := by
  rw [stepped, if_neg (Nat.ne_of_gt positive)]
  congr 1
  induction bound with
  | zero =>
      rw [rounded_up positive]
      simp
  | succ bound inductionHypothesis =>
      have next : (bound + 1 + (step - 1)) / step = bound / step + 1 := by
        rw [← Nat.add_div_right bound positive]
        congr 1
        omega
      rw [rounded_up positive] at inductionHypothesis
      -- The bound itself is reached exactly if the division comes out even.
      rw [next, List.range_succ (n := bound), List.filter_append, ← inductionHypothesis]
      by_cases multiple : bound % step = 0
      · have last : bound / step * step = bound :=
          Nat.div_mul_cancel (Nat.dvd_of_mod_eq_zero multiple)
        rw [if_pos multiple, List.range_succ, List.map_append]
        simp [multiple, last]
      · rw [if_neg multiple]
        simp [multiple]

theorem mapM_eq_ok {f : α → Checked β} {g : α → β} {values : List α}
    (taken : ∀ value ∈ values, f value = .ok (g value)) :
    values.mapM f = .ok (values.map g) := by
  induction values with
  | nil => rfl
  | cons value rest inductionHypothesis =>
      obtain ⟨first, others⟩ := List.forall_mem_cons.mp taken
      rw [List.mapM_cons, first, inductionHypothesis others]
      rfl

end Checked

/-- A computation that may come to a fault of the text, and that may run into a trap. -/
abbrev Guarded (ε α : Type) : Type :=
  ExceptT ε Checked α

namespace Guarded

variable {ε ε' α β : Type}

def take (step : Checked α) : Guarded ε α :=
  ExceptT.lift step

def given (result : Except ε α) : Guarded ε α :=
  ExceptT.mk (.ok result)

def renameFault (f : ε → ε') (computation : Guarded ε α) : Guarded ε' α :=
  ExceptT.mk (computation.run.map (Except.mapError f))

/-- The computation meets no trap and comes to the answer. -/
def Yields (computation : Guarded ε α) (answer : Except ε α) : Prop :=
  computation.run = .ok answer

theorem yields_pure (value : α) : Yields (pure value : Guarded ε α) (.ok value) :=
  rfl

theorem yields_throw (fault : ε) : Yields (throw fault : Guarded ε α) (.error fault) :=
  rfl

theorem yields_given (result : Except ε α) : Yields (given result) result :=
  rfl

theorem Yields.bind {computation : Guarded ε α} {next : α → Guarded ε β} {answer : Except ε α}
    {answers : α → Except ε β} (first : Yields computation answer)
    (second : ∀ value, answer = .ok value → Yields (next value) (answers value)) :
    Yields (computation >>= next) (answer >>= answers) := by
  have run : (computation >>= next).run = computation.run >>= ExceptT.bindCont next := rfl
  rw [Yields, run, show computation.run = .ok answer from first]
  cases answer with
  | error fault => rfl
  | ok value => exact second value rfl

theorem Yields.afterStep {step : Checked α} {value : α} {next : α → Guarded ε β}
    {answer : Except ε β} (taken : step = .ok value) (rest : Yields (next value) answer) :
    Yields (take step >>= next) answer := by
  have first : Yields (take step : Guarded ε α) (.ok value) := by
    rw [taken]
    rfl
  exact first.bind fun _ same => Except.ok.inj same ▸ rest

theorem Yields.renameFault {computation : Guarded ε α} {answer : Except ε α}
    (yields : Yields computation answer) (f : ε → ε') :
    Yields (computation.renameFault f) (answer.mapError f) := by
  rw [Yields, Guarded.renameFault, ExceptT.run_mk, show computation.run = .ok answer from yields]
  rfl

end Guarded

end Chronogram
