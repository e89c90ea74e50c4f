import Chronogram.Statement.Basic
import Chronogram.Text.Blank
import Chronogram.Text.Digit
import Chronogram.Text.Quoted
import Chronogram.Text.Word

/-!
Reading statements.

A line is read from left to right, and each piece is taken as far as it goes: what may follow a
piece never could belong to it. A reader of a piece gives the piece and the rest of the line; a
statement must use up its line.
-/

namespace Chronogram

namespace Reader

open Text

def exactly? (expected : List Char) (line : List Char) : Option (List Char) :=
  if expected.isPrefixOf line then some (line.drop expected.length) else none

def blanks? (line : List Char) : Option (List Char) :=
  match line with
  | c :: rest => if isBlank c then some (trimStart rest) else none
  | [] => none

/-- Read the longest non-empty row of characters of one class. -/
def row? (belongs : Char → Bool) (line : List Char) : Option (String × List Char) :=
  let taken := line.takeWhile belongs
  if taken.isEmpty then none
  else some (String.ofList taken, line.dropWhile belongs)

def digits? : List Char → Option (String × List Char) :=
  row? isDigit

def quoted? (line : List Char) : Option (String × List Char) :=
  (Quoted.field? line).map fun (raw, rest) => (String.ofList raw, rest)

def tick? (line : List Char) : Option (String × List Char) :=
  (exactly? ['T'] line).bind digits?

def finish {α : Type} (result : α) : List Char → Option α
  | [] => some result
  | _ :: _ => none

def keyword? (word : String) (line : List Char) : Option (List Char) :=
  (exactly? word.toList line).bind blanks?

/-- A key and a value, neither holding blanks. -/
def readConfig? (line : List Char) : Option Statement := do
  let rest ← keyword? "config" line
  let (key, rest) ← row? (!isBlank ·) rest
  let rest ← blanks? rest
  let (value, rest) ← row? (!isBlank ·) rest
  finish (.config key value) rest

def readTitle? (line : List Char) : Option Statement := do
  let rest ← keyword? "title" line
  let (text, rest) ← quoted? rest
  finish (.title text) rest

def readLifeline? (line : List Char) : Option Statement := do
  let rest ← keyword? "lifeline" line
  let (name, rest) ← quoted? rest
  finish (.lifeline name) rest

/-- A quoted name and a word. -/
def readStyle? (line : List Char) : Option Statement := do
  let rest ← keyword? "style" line
  let (name, rest) ← quoted? rest
  let rest ← blanks? rest
  let (style, rest) ← row? isWordChar rest
  finish (.style name style) rest

/-- A quoted name, a quoted label and a number. -/
def readState? (line : List Char) : Option Statement := do
  let rest ← keyword? "state" line
  let (name, rest) ← quoted? rest
  let rest ← blanks? rest
  let (label, rest) ← quoted? rest
  let rest ← blanks? rest
  let (index, rest) ← digits? rest
  finish (.state name label index) rest

/-- A quoted name, two ticks with a colon between them, and a quoted label. -/
def readSpan? (line : List Char) : Option Statement := do
  let rest ← keyword? "span" line
  let (name, rest) ← quoted? rest
  let rest ← blanks? rest
  let (originTick, rest) ← tick? rest
  let rest ← exactly? [':'] rest
  let (destTick, rest) ← tick? rest
  let rest ← blanks? rest
  let (label, rest) ← quoted? rest
  finish (.span name originTick destTick label) rest

/-- Read a colon and a row of digits, where they follow. -/
def slot (line : List Char) : Option String × List Char :=
  match line with
  | ':' :: rest =>
      match digits? rest with
      | some (digits, rest) => (some digits, rest)
      | none => (none, line)
  | _ => (none, line)

/-- Read an end of an arrow: a tick, a colon, a quoted name, and perhaps a slot. -/
def end? (line : List Char) : Option (EndFields × List Char) := do
  let (tick, rest) ← tick? line
  let rest ← exactly? [':'] rest
  let (lifeline, rest) ← quoted? rest
  let (slot, rest) := slot rest
  some (⟨tick, lifeline, slot⟩, rest)

def head? : List Char → Option (ArrowStyle × List Char)
  | '-' :: '>' :: rest => some (.solid, rest)
  | '=' :: '>' :: rest => some (.dashed, rest)
  | _ => none

/-- Read a colon and digits with an optional minus sign, where they follow. -/
def position (line : List Char) : Option String × List Char :=
  match line with
  | ':' :: '-' :: rest =>
      match digits? rest with
      | some (digits, rest) => (some ("-" ++ digits), rest)
      | none => (none, line)
  | _ => slot line

/-- Read the label of an arrow, where blanks follow. -/
def label? (line : List Char) : Option (Option LabelFields × List Char) :=
  match blanks? line with
  | none => some (none, line)
  | some rest => do
      let (text, rest) ← quoted? rest
      let (position, rest) := position rest
      some (some ⟨text, position⟩, rest)

def side? : List Char → Option (Option LabelSide)
  | [] => some none
  | [':', 'R'] => some (some .right)
  | [':', 'L'] => some (some .left)
  | _ => none

/-- Two ends around a head, then perhaps a label and a side. -/
def readArrow? (line : List Char) : Option Statement := do
  let (origin, rest) ← end? line
  let (style, rest) ← head? (trimStart rest)
  let (dest, rest) ← end? (trimStart rest)
  let (label, rest) ← label? rest
  let side ← side? rest
  some (.arrow ⟨origin, style, dest, label, side⟩)

/-- Whether a character can stand in a bare state. -/
def isBareChar (c : Char) : Bool :=
  !isBlank c && c ≠ '"'

def state? (line : List Char) : Option (StateField × List Char) :=
  match quoted? line with
  | some (raw, rest) => some (.quoted raw, rest)
  | none => (row? isBareChar line).map fun (token, rest) => (.bare token, rest)

/-- A tick, a quoted name and a state. -/
def readTick? (line : List Char) : Option Statement := do
  let (time, rest) ← tick? line
  let rest ← blanks? rest
  let (name, rest) ← quoted? rest
  let rest ← blanks? rest
  let (state, rest) ← state? rest
  finish (.tick time name state) rest

end Reader

namespace Statement

def readKind? : StatementKind → List Char → Option Statement
  | .config => Reader.readConfig?
  | .title => Reader.readTitle?
  | .lifeline => Reader.readLifeline?
  | .style => Reader.readStyle?
  | .state => Reader.readState?
  | .span => Reader.readSpan?
  | .arrow => Reader.readArrow?
  | .tick => Reader.readTick?

def kinds : List StatementKind :=
  [.config, .title, .lifeline, .style, .state, .span, .arrow, .tick]

def matchingKinds (line : String) : List StatementKind :=
  kinds.filter fun kind => (readKind? kind line.toList).isSome

def read? (line : String) : Option Statement :=
  kinds.findSome? fun kind => readKind? kind line.toList

end Statement

end Chronogram
