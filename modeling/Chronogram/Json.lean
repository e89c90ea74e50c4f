import Chronogram.Number.Decimal
import Chronogram.Text.Numeral

/-!
JSON values and their text.

Objects come in two forms that are written alike: records, whose fields are fixed, and tables, whose
keys are data. Members are written in the order in which they are given. Numbers that are not finite
are written as null.
-/

namespace Chronogram

inductive Json where
  | null
  | bool (value : Bool)
  | whole (value : Int)
  | number (value : Float)
  | string (value : String)
  | list (items : List Json)
  | record (fields : List (String × Json))
  | table (entries : List (String × Json))

namespace Json

def nat (n : Nat) : Json := .whole n

def option {α : Type} (encode : α → Json) : Option α → Json
  | some value => encode value
  | none => .null

/-- The text of one character inside a string. -/
def escapeChar (c : Char) : List Char :=
  if c = '"' then "\\\"".toList
  else if c = '\\' then "\\\\".toList
  else if c = '\n' then "\\n".toList
  else if c = '\r' then "\\r".toList
  else if c = '\t' then "\\t".toList
  else if c.toNat = 8 then "\\b".toList
  else if c.toNat = 12 then "\\f".toList
  else if c.toNat < 0x20 then
    "\\u00".toList ++ [Nat.digitChar (c.toNat / 16), Nat.digitChar (c.toNat % 16)]
  else [c]

def quote (text : String) : String :=
  String.ofList ('"' :: (text.toList.flatMap escapeChar ++ ['"']))

def numberText (x : Float) : String :=
  if x.isFinite then String.ofList (Number.Style.json.write x) else "null"

/-- How the members of a value are set apart: on one line, or on lines of their own with a number of
blanks in front that grows with the depth. -/
inductive Format where
  | compact
  | pretty (indent : Nat)

def Format.deeper : Format → Format
  | .compact => .compact
  | .pretty indent => .pretty (indent + 2)

def Format.lineBreak : Format → String
  | .compact => ""
  | .pretty indent => "\n" ++ String.ofList (List.replicate indent ' ')

/-- What stands between the name and the value of a member. -/
def Format.colon : Format → String
  | .compact => ":"
  | .pretty _ => ": "

/-- Put brackets around members. Without members the brackets stand side by side. -/
def Format.enclose (format : Format) (opening closing : String) (members : List String) : String :=
  match members with
  | [] => opening ++ closing
  | _ :: _ =>
      opening ++ format.deeper.lineBreak ++
        String.intercalate ("," ++ format.deeper.lineBreak) members ++
        format.lineBreak ++ closing

mutual

def write (format : Format) : Json → String
  | .null => "null"
  | .bool value => if value then "true" else "false"
  | .whole value => String.ofList (Text.Numeral.ofInt value)
  | .number value => numberText value
  | .string value => quote value
  | .list items => format.enclose "[" "]" (writeItems format.deeper items)
  | .record fields => format.enclose "\x7b" "\x7d" (writeFields format.deeper fields)
  | .table entries => format.enclose "\x7b" "\x7d" (writeFields format.deeper entries)

def writeItems (format : Format) : List Json → List String
  | [] => []
  | item :: rest => item.write format :: writeItems format rest

def writeFields (format : Format) : List (String × Json) → List String
  | [] => []
  | (name, value) :: rest =>
      (quote name ++ format.colon ++ value.write format) :: writeFields format rest

end

def compact (value : Json) : String :=
  value.write .compact

def pretty (value : Json) : String :=
  value.write (.pretty 0)

end Json

end Chronogram
