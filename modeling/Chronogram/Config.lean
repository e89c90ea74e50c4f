import Chronogram.Number.Reading
import Chronogram.Text.Ascii
import Chronogram.Text.Blank
import Chronogram.Text.Numeral

/-!
Settings of a diagram.

A directive names a key and a value. Keys are compared without regard to ASCII case and underscores.
The value `default` keeps the present setting; any other value must be valid for its key. A
directive is therefore either at fault, or it amounts to one setting or to none.
-/

namespace Chronogram

open Text

inductive LegendMode where
  /-- Every so many ticks. -/
  | byFrequency
  /-- The ticks at which the first lifeline has an observation. -/
  | onlySignificant
  deriving Repr, DecidableEq

def LegendMode.ofName? (text : List Char) : Option LegendMode :=
  let name := asciiLower (trim text)
  if name = "frequency".toList ∨ name = "byfrequency".toList then some .byFrequency
  else if name = "significant".toList ∨ name = "onlysignificant".toList then some .onlySignificant
  else none

structure Config where
  tickWidth : Float
  legendFrequency : Nat
  legendMode : LegendMode
  scale : Float

namespace Config

/-- The settings of a diagram that says nothing about them. -/
def standard : Config := ⟨50, 1, .byFrequency, 1⟩

instance : Inhabited Config := ⟨standard⟩

inductive Key where
  | tickWidth
  | legendFrequency
  | legendMode
  | scale
  deriving Repr, DecidableEq

def normalizeKey (key : List Char) : List Char :=
  asciiLower (key.filter (· ≠ '_'))

def Key.ofText? (key : List Char) : Option Key :=
  let name := normalizeKey key
  if name = "tickwidth".toList then some .tickWidth
  else if name = "legendfrequency".toList then some .legendFrequency
  else if name = "legendmode".toList then some .legendMode
  else if name = "scale".toList then some .scale
  else none

inductive Expectation where
  | positiveNumber
  | positiveInteger
  | legendMode
  deriving Repr, DecidableEq

def Expectation.message : Expectation → String
  | .positiveNumber => "expected a positive number"
  | .positiveInteger => "expected a positive integer"
  | .legendMode => "expected `frequency` or `significant`"

/-- Why a directive is refused. -/
inductive Fault where
  | unknownKey
  | invalidValue (expectation : Expectation)
  deriving Repr, DecidableEq

inductive Setting where
  | tickWidth (width : Float)
  | legendFrequency (frequency : Nat)
  | legendMode (mode : LegendMode)
  | scale (factor : Float)

def set (config : Config) : Setting → Config
  | .tickWidth width => { config with tickWidth := width }
  | .legendFrequency frequency => { config with legendFrequency := frequency }
  | .legendMode mode => { config with legendMode := mode }
  | .scale factor => { config with scale := factor }

/-- Read a finite number above zero. -/
def positiveFloat? (text : List Char) : Option Float :=
  ((Number.read? Number.Format.double text).filter Number.Value.isPositive).map
    Number.Value.toFloat

/-- Read a whole number above zero that fits 32 bits. -/
def positiveNatural? (text : List Char) : Option Nat :=
  (Numeral.unsigned? Numeral.halfWordBound text).filter (0 < ·)

def expect {α : Type} (expectation : Expectation) (make : α → Setting) :
    Option α → Except Expectation Setting
  | some value => .ok (make value)
  | none => .error expectation

def Key.read (key : Key) (value : List Char) : Except Expectation Setting :=
  match key with
  | .tickWidth => expect .positiveNumber .tickWidth (positiveFloat? value)
  | .legendFrequency => expect .positiveInteger .legendFrequency (positiveNatural? value)
  | .legendMode => expect .legendMode .legendMode (LegendMode.ofName? value)
  | .scale => expect .positiveNumber .scale (positiveFloat? value)

/-- The setting that a directive asks for, if it asks for a change. The key is checked first. -/
def directive (key value : String) : Except Fault (Option Setting) :=
  match Key.ofText? key.toList with
  | none => .error .unknownKey
  | some key =>
      if value = "default" then .ok none
      else match key.read value.toList with
        | .ok setting => .ok (some setting)
        | .error expectation => .error (.invalidValue expectation)

def apply (config : Config) (key value : String) : Except Fault Config :=
  match directive key value with
  | .ok (some setting) => .ok (config.set setting)
  | .ok none => .ok config
  | .error fault => .error fault

end Config

end Chronogram
