import Chronogram.Text.Blank

/-!
Identifiers that are safe in markup and in style sheets.

Any text can be made an identifier: characters other than ASCII letters, digits, dashes and
underscores become dashes, rows of dashes become one, dashes at the ends are dropped, and what does
not start with a letter gets the letter `t` and a dash in front.
-/

namespace Chronogram.Svg.Identifier

def isKept (c : Char) : Bool :=
  c.isAlphanum || c = '-' || c = '_'

/-- Put dashes in the place of the characters that are not kept. -/
def dashed (raw : List Char) : List Char :=
  (Text.trim raw).map fun c => if isKept c then c else '-'

/-- Whether two dashes stand side by side. -/
def hasPair : List Char → Bool
  | '-' :: '-' :: _ => true
  | _ :: rest => hasPair rest
  | [] => false

/-- Make two dashes that stand side by side one, from left to right. A dash that has been made is not
looked at again, so a longer row is only halved. -/
def mergePairs : List Char → List Char
  | '-' :: '-' :: rest => '-' :: mergePairs rest
  | c :: rest => c :: mergePairs rest
  | [] => []

theorem length_mergePairs_le (text : List Char) : (mergePairs text).length ≤ text.length := by
  fun_induction mergePairs text with
  | case1 rest inductionHypothesis =>
      simp only [List.length_cons]
      omega
  | case2 c rest _ inductionHypothesis =>
      simp only [List.length_cons]
      omega
  | case3 => exact Nat.le_refl _

theorem length_mergePairs_lt {text : List Char} (pair : hasPair text = true) :
    (mergePairs text).length < text.length := by
  fun_induction mergePairs text with
  | case1 rest =>
      have shorter := length_mergePairs_le rest
      simp only [List.length_cons]
      omega
  | case2 c rest single inductionHypothesis =>
      have behind : hasPair rest = true := by
        unfold hasPair at pair
        split at pair
        next other same =>
          obtain ⟨rfl, rfl⟩ := List.cons.inj same
          exact absurd rfl (single other rfl)
        next same =>
          obtain ⟨-, rfl⟩ := List.cons.inj same
          exact pair
        next same => cases same
      have shorter := inductionHypothesis behind
      simp only [List.length_cons]
      omega
  | case3 => simp [hasPair] at pair

/-- Make every row of dashes one dash, by merging pairs until there are none. -/
def collapse (text : List Char) : List Char :=
  if hasPair text then collapse (mergePairs text) else text
termination_by text.length
decreasing_by
  apply length_mergePairs_lt
  assumption

def trimDashes (text : List Char) : List Char :=
  ((text.dropWhile (· = '-')).reverse.dropWhile (· = '-')).reverse

def untitled : List Char := "t-untitled".toList

/-- Put a letter in front unless there is one. -/
def startWithLetter : List Char → List Char
  | [] => untitled
  | c :: rest => if c.isAlpha then c :: rest else 't' :: '-' :: c :: rest

def ofChars (raw : List Char) : List Char :=
  startWithLetter (trimDashes (collapse (dashed raw)))

def ofText (raw : String) : String :=
  String.ofList (ofChars raw.toList)

end Chronogram.Svg.Identifier
