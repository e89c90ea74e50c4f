import Chronogram.Svg.Number

/-!
The pieces that SVG documents are made of.

A document is a row of tokens: a declaration, tags with attributes, and character data. Texts inside
them are rows of pieces, which are fixed text or numbers still to be scaled; the scale enters only
when a piece is written.
-/

namespace Chronogram.Svg

/-- Fixed text, or a number in unscaled pixels. -/
inductive Piece where
  | literal (text : String)
  | scaled (value : Float)

def Piece.write (scale : Float) : Piece → String
  | .literal text => text
  | .scaled value => String.ofList (numberText (value * scale))

def writePieces (scale : Float) (pieces : List Piece) : String :=
  pieces.foldl (fun written piece => written ++ piece.write scale) ""

structure Attribute where
  name : String
  value : List Piece

def Attribute.fixed (name value : String) : Attribute :=
  ⟨name, [.literal value]⟩

def Attribute.number (name : String) (value : Float) : Attribute :=
  ⟨name, [.scaled value]⟩

def Attribute.pieces (item : Attribute) : List Piece :=
  .literal (" " ++ item.name ++ "=\"") :: item.value ++ [.literal "\""]

/-- A lexical unit of a document. -/
inductive Token where
  | declaration
  | startTag (name : String) (attributes : List Attribute)
  | emptyTag (name : String) (attributes : List Attribute)
  | endTag (name : String)
  | characters (content : List Piece)

def declarationText : String :=
  "<?xml version=\"1.0\" encoding=\"UTF-8\" standalone=\"no\"?>"

def Token.pieces : Token → List Piece
  | .declaration => [.literal declarationText]
  | .startTag name attributes =>
      .literal ("<" ++ name) :: attributes.flatMap Attribute.pieces ++ [.literal ">"]
  | .emptyTag name attributes =>
      .literal ("<" ++ name) :: attributes.flatMap Attribute.pieces ++ [.literal " />"]
  | .endTag name => [.literal ("</" ++ name ++ ">")]
  | .characters content => content

def Token.fixed (text : String) : Token :=
  .characters [.literal text]

def Token.newline : Token :=
  .fixed "\n"

def tokenPieces (tokens : List Token) : List Piece :=
  tokens.flatMap Token.pieces

def writeTokens (scale : Float) (tokens : List Token) : String :=
  tokens.foldl (fun written token =>
    token.pieces.foldl (fun written piece => written ++ piece.write scale) written) ""

theorem writeTokens_eq (scale : Float) (tokens : List Token) :
    writeTokens scale tokens = writePieces scale (tokenPieces tokens) := by
  simp [writeTokens, writePieces, tokenPieces, List.foldl_flatMap]

end Chronogram.Svg
