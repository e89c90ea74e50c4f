/-!
Quoted fields.

A field stands between double quotes. Inside it a backslash takes the next character as it is, so a
quote or a backslash that belongs to the text is written with a backslash in front. The reader hands
out the raw text between the quotes; `unescape` resolves it, and undoes `escape`.
-/

namespace Chronogram.Text.Quoted

/-- Write a backslash in front of every backslash and every quote. -/
def escape : List Char → List Char
  | [] => []
  | c :: rest =>
      if c = '\\' ∨ c = '"' then '\\' :: c :: escape rest else c :: escape rest

/-- Resolve backslashes: each keeps the character behind it, and one at the very end stands for
itself. -/
def unescape : List Char → List Char
  | [] => []
  | ['\\'] => ['\\']
  | '\\' :: c :: rest => c :: unescape rest
  | c :: rest => c :: unescape rest

/-- Read up to the closing quote. A backslash must be followed by a character other than a line
feed, which the raw text keeps together with the backslash. -/
def body? : List Char → Option (List Char × List Char)
  | [] => none
  | '"' :: rest => some ([], rest)
  | ['\\'] => none
  | '\\' :: c :: rest =>
      if c = '\n' then none
      else (body? rest).map fun (raw, after) => ('\\' :: c :: raw, after)
  | c :: rest => (body? rest).map fun (raw, after) => (c :: raw, after)

/-- Read one quoted field in front: its raw text and what follows the closing quote. -/
def field? : List Char → Option (List Char × List Char)
  | '"' :: rest => body? rest
  | _ => none

def encode (text : List Char) : List Char :=
  '"' :: (escape text ++ ['"'])

/-- Resolving backslashes undoes writing them. -/
@[simp]
theorem unescape_escape (text : List Char) : unescape (escape text) = text := by
  induction text with
  | nil => rfl
  | cons c rest inductionHypothesis =>
      by_cases special : c = '\\' ∨ c = '"'
      · simp [escape, special, unescape, inductionHypothesis]
      · obtain ⟨notBackslash, notQuote⟩ := not_or.mp special
        simp [escape, notBackslash, notQuote, unescape, inductionHypothesis]

end Chronogram.Text.Quoted
