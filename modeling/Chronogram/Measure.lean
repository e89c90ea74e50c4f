import Chronogram.Markup.Entity
import Chronogram.Scalar
import Chronogram.Text.Columns
import Chronogram.Text.Lines

/-!
The extent of text.

Text is measured without a font: every display column has the same width. Markup is measured as it
is displayed, so a character reference counts as the character it stands for. Layout asks only for
widths, and takes any way to measure them.
-/

namespace Chronogram

open Text

inductive TextClass where
  | title
  | lifelineLabel
  | stateLabel
  | legend
  deriving Repr, DecidableEq

namespace TextClass

def all : List TextClass := [.title, .lifelineLabel, .stateLabel, .legend]

/-- The name of a role in a style sheet. -/
def name : TextClass → String
  | .title => "title"
  | .lifelineLabel => "lifeline-label"
  | .stateLabel => "state-label"
  | .legend => "legend"

def fontSize : TextClass → Int
  | .title => 20
  | .lifelineLabel => 17
  | .stateLabel | .legend => 16

/-- Whether a role is set in bold letters. -/
def isBold : TextClass → Bool
  | .title | .lifelineLabel => true
  | .stateLabel | .legend => false

end TextClass

def fontFamily : String := "sans-serif"

def isBoldWeight (weight : String) : Bool :=
  weight = "bold" || weight = "700"

/-- A way to tell how wide markup is in the letters of a role. -/
structure Measurer (α : Type) where
  width : TextClass → String → α

/-- Markup as it is displayed. Text without an ampersand holds no reference. -/
def displayText (markup : List Char) : List Char :=
  if markup.contains '&' then Markup.decode markup else markup

/-- Factors that turn letter sizes into extents; a factor of zero stands for the standard one. -/
structure FontMetrics where
  charWidth : Float
  lineHeight : Float
  boldWidth : Float

namespace FontMetrics

def standard : FontMetrics := ⟨0, 0, 0⟩

def orStandard (factor standard : Float) : Float :=
  if factor == 0 then standard else factor

structure Extent where
  width : Float
  height : Float
  lineCount : Nat

/-- The greatest number of columns that a line of a text takes. -/
def widestLine (count : List Char → Nat) (text : List Char) : Nat :=
  ((feedParts text).map count).foldl max 0

/-- Measure markup in letters of a size, at least one, and perhaps bold. The columns of a line are
counted in a way that is given. -/
def measureBy (metrics : FontMetrics) (count : List Char → Nat) (fontSize : Float) (isBold : Bool)
    (markup : String) : Extent :=
  let text := displayText markup.toList
  let lineCount := (feedParts text).length
  let size := floatMax fontSize 1
  let width := Float.ofNat (widestLine count text) * size * orStandard metrics.charWidth 0.6
  { width := if isBold then width * orStandard metrics.boldWidth 1.1 else width
    height := Float.ofNat lineCount * size * orStandard metrics.lineHeight 1.2
    lineCount }

def measure (metrics : FontMetrics) : Float → Bool → String → Extent :=
  metrics.measureBy columns

def measurer (metrics : FontMetrics) : Measurer Float where
  width role markup := (metrics.measure (Float.ofInt role.fontSize) role.isBold markup).width

end FontMetrics

end Chronogram
