/-!
Escaping of text that becomes part of a markup document.

The five reserved characters are replaced by named references, every other character is kept. Texts
are escaped once, when a statement is read; from then on they are markup and are written as they
are.
-/

namespace Chronogram.Markup

def escapeChar (c : Char) : List Char :=
  match c with
  | '&' => "&amp;".toList
  | '"' => "&quot;".toList
  | '\'' => "&apos;".toList
  | '>' => "&gt;".toList
  | '<' => "&lt;".toList
  | _ => [c]

def escape (text : List Char) : List Char :=
  text.flatMap escapeChar

end Chronogram.Markup
