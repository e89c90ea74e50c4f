import Chronogram.Proofs.Svg.Characters

/-!
Tokens are written as lexemes.

Character data is cut into characters and references, a tag gets the values of its attributes at a
scale. What is written for a row of tokens is then what is written for its lexemes, and they are
well formed as soon as the fixed texts of the tokens are harmless where they stand.
-/

namespace Chronogram.Svg

def referenceAt? (text : List Char) : Option (List Char) :=
  Markup.references.find? fun reference => decide (reference <+: text)

/-- The lexemes of character data behind a number of characters that have been used up. -/
def dataAfter : Nat → List Char → List Lexeme
  | _, [] => []
  | used + 1, _ :: rest => dataAfter used rest
  | 0, c :: rest =>
      match referenceAt? (c :: rest) with
      | some reference => .reference reference :: dataAfter (reference.length - 1) rest
      | none => .character c :: dataAfter 0 rest

theorem of_referenceAt? {text reference : List Char} (found : referenceAt? text = some reference) :
    reference ∈ Markup.references ∧ reference <+: text := by
  unfold referenceAt? at found
  exact ⟨List.mem_of_find?_eq_some found, by simpa using List.find?_some found⟩

/-- Cutting a text up loses nothing. -/
theorem flatMap_write_dataAfter (used : Nat) (text : List Char) :
    (dataAfter used text).flatMap Lexeme.write = text.drop used := by
  induction text generalizing used with
  | nil => cases used <;> rfl
  | cons c rest inductionHypothesis =>
      cases used with
      | succ used => exact inductionHypothesis used
      | zero =>
          unfold dataAfter
          cases found : referenceAt? (c :: rest) with
          | none => simp [Lexeme.write, inductionHypothesis]
          | some reference =>
              obtain ⟨known, others, split⟩ := of_referenceAt? found
              have nonempty : ∀ text ∈ Markup.references, text ≠ [] := by decide
              obtain ⟨first, name, rfl⟩ := List.exists_cons_of_ne_nil (nonempty reference known)
              obtain ⟨rfl, rfl⟩ : first = c ∧ name ++ others = rest := List.cons.inj split
              rw [List.flatMap_cons, inductionHypothesis]
              simp [Lexeme.write]

theorem isData_dataAfter (used : Nat) (text : List Char) :
    ∀ lexeme ∈ dataAfter used text, lexeme.isData = true := by
  induction text generalizing used with
  | nil => cases used <;> simp [dataAfter]
  | cons c rest inductionHypothesis =>
      cases used with
      | succ used => exact inductionHypothesis used
      | zero =>
          unfold dataAfter
          cases referenceAt? (c :: rest) with
          | some reference => exact List.forall_mem_cons.mpr ⟨rfl, inductionHypothesis _⟩
          | none => exact List.forall_mem_cons.mpr ⟨rfl, inductionHypothesis 0⟩

theorem wellFormed_dataAfter {text : List Char} (safe : Markup.Safe text) (used : Nat) :
    ∀ lexeme ∈ dataAfter used text, lexeme.WellFormed := by
  induction text generalizing used with
  | nil => cases used <;> simp [dataAfter]
  | cons c rest inductionHypothesis =>
      have behind := inductionHypothesis safe.of_cons
      cases used with
      | succ used => exact behind used
      | zero =>
          unfold dataAfter
          cases found : referenceAt? (c :: rest) with
          | some reference =>
              exact List.forall_mem_cons.mpr ⟨(of_referenceAt? found).1, behind _⟩
          | none =>
              refine List.forall_mem_cons.mpr ⟨⟨?_, ?_⟩, behind 0⟩
              · exact (safe.plain c List.mem_cons_self).1
              · -- An ampersand would have been taken for the reference that it begins.
                rintro rfl
                obtain ⟨reference, known, begins⟩ := safe.referenced [] rest rfl
                have missed := List.find?_eq_none.mp found reference known
                exact missed (decide_eq_true begins)

/-! ### Tokens -/

def Piece.chars (scale : Float) (piece : Piece) : List Char :=
  (piece.write scale).toList

def Attribute.textAt (scale : Float) (item : Attribute) : AttributeText :=
  ⟨item.name, item.value.flatMap (Piece.chars scale)⟩

def Token.lexemes (scale : Float) : Token → List Lexeme
  | .declaration => [.declaration]
  | .startTag name attributes => [.tag name (attributes.map (Attribute.textAt scale)) false]
  | .emptyTag name attributes => [.tag name (attributes.map (Attribute.textAt scale)) true]
  | .endTag name => [.endTag name]
  | .characters content => dataAfter 0 (content.flatMap (Piece.chars scale))

theorem toList_writePieces (scale : Float) (pieces : List Piece) :
    (writePieces scale pieces).toList = pieces.flatMap (Piece.chars scale) := by
  have written : ∀ start : String,
      (pieces.foldl (fun written piece => written ++ piece.write scale) start).toList =
        start.toList ++ pieces.flatMap (Piece.chars scale) := by
    induction pieces with
    | nil => simp
    | cons piece rest inductionHypothesis =>
        intro start
        rw [List.foldl_cons, inductionHypothesis]
        simp [Piece.chars]
  exact written ""

theorem write_textAt (scale : Float) (item : Attribute) :
    (item.textAt scale).write = item.pieces.flatMap (Piece.chars scale) := by
  simp [AttributeText.write, Attribute.textAt, Attribute.pieces, Piece.chars, Piece.write]

theorem flatMap_write_textAt (scale : Float) (attributes : List Attribute) :
    (attributes.map (Attribute.textAt scale)).flatMap AttributeText.write =
      (attributes.flatMap Attribute.pieces).flatMap (Piece.chars scale) := by
  simp only [List.flatMap_map, List.flatMap_assoc, write_textAt]

theorem flatMap_write_lexemes (scale : Float) (token : Token) :
    (token.lexemes scale).flatMap Lexeme.write = token.pieces.flatMap (Piece.chars scale) := by
  cases token with
  | declaration => simp [Token.lexemes, Lexeme.write, Token.pieces, Piece.chars, Piece.write]
  | startTag name attributes =>
      simp [Token.lexemes, Lexeme.write, Lexeme.tagEnd, Token.pieces, Piece.chars, Piece.write,
        flatMap_write_textAt]
  | emptyTag name attributes =>
      simp [Token.lexemes, Lexeme.write, Lexeme.tagEnd, Token.pieces, Piece.chars, Piece.write,
        flatMap_write_textAt]
  | endTag name => simp [Token.lexemes, Lexeme.write, Token.pieces, Piece.chars, Piece.write]
  | characters content => exact flatMap_write_dataAfter 0 _

theorem toList_writeTokens (scale : Float) (tokens : List Token) :
    (writeTokens scale tokens).toList =
      (tokens.flatMap (Token.lexemes scale)).flatMap Lexeme.write := by
  rw [writeTokens_eq, toList_writePieces, tokenPieces, List.flatMap_assoc, List.flatMap_assoc]
  simp only [flatMap_write_lexemes]

/-- The name is known, and no fixed part of the value could end it. -/
structure Attribute.Sound (item : Attribute) : Prop where
  name : item.name ∈ attributeNames
  value : ∀ text, Piece.literal text ∈ item.value → ∀ c ∈ text.toList, IsValueChar c

/-- Names are known, and fixed texts are harmless where they stand. -/
def Token.Sound : Token → Prop
  | .declaration => True
  | .startTag name attributes | .emptyTag name attributes =>
      name ∈ elementNames ∧ ∀ item ∈ attributes, item.Sound
  | .endTag name => name ∈ elementNames
  | .characters content => ∀ text, Piece.literal text ∈ content → Markup.Safe text.toList

theorem Attribute.Sound.textAt {item : Attribute} (sound : item.Sound) (scale : Float) :
    (item.textAt scale).WellFormed where
  name := sound.name
  value := by
    intro c membership
    obtain ⟨piece, stands, written⟩ := List.mem_flatMap.mp membership
    cases piece with
    | literal text => exact sound.value text stands c written
    | scaled value =>
        rw [Piece.chars, Piece.write, String.toList_ofList] at written
        exact (unreserved_numberText _).isValueChar c written

theorem wellFormed_map_textAt {attributes : List Attribute}
    (sound : ∀ item ∈ attributes, item.Sound) (scale : Float) :
    ∀ item ∈ attributes.map (Attribute.textAt scale), item.WellFormed := by
  intro item membership
  obtain ⟨item, stands, rfl⟩ := List.mem_map.mp membership
  exact (sound item stands).textAt scale

theorem safe_flatMap_chars {content : List Piece}
    (safe : ∀ text, Piece.literal text ∈ content → Markup.Safe text.toList) (scale : Float) :
    Markup.Safe (content.flatMap (Piece.chars scale)) := by
  induction content with
  | nil => exact Markup.safe_nil
  | cons piece rest inductionHypothesis =>
      rw [List.flatMap_cons]
      refine Markup.Safe.append ?_ (inductionHypothesis fun text stands =>
        safe text (List.mem_cons_of_mem piece stands))
      cases piece with
      | literal text => exact safe text List.mem_cons_self
      | scaled value =>
          rw [Piece.chars, Piece.write, String.toList_ofList]
          exact (unreserved_numberText _).safe

theorem Token.Sound.lexemes {token : Token} (sound : token.Sound) (scale : Float) :
    ∀ lexeme ∈ token.lexemes scale, lexeme.WellFormed := by
  cases token with
  | declaration => exact List.forall_mem_singleton.mpr trivial
  | startTag name attributes | emptyTag name attributes =>
      exact List.forall_mem_singleton.mpr ⟨sound.1, wellFormed_map_textAt sound.2 scale⟩
  | endTag name => exact List.forall_mem_singleton.mpr sound
  | characters content =>
      exact wellFormed_dataAfter (safe_flatMap_chars sound scale) 0

theorem splits_writeTokens {tokens : List Token} (sound : ∀ token ∈ tokens, token.Sound)
    (scale : Float) :
    Splits (writeTokens scale tokens) (tokens.flatMap (Token.lexemes scale)) where
  written := toList_writeTokens scale tokens
  wellFormed := by
    intro lexeme membership
    obtain ⟨token, stands, cut⟩ := List.mem_flatMap.mp membership
    exact (sound token stands).lexemes scale lexeme cut

end Chronogram.Svg
