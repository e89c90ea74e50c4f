import Chronogram.Proofs.Markup.Safe
import Chronogram.Svg.Token
import Mathlib.Data.List.Basic

/-!
The lexical form of documents.

A document is a row of lexemes: the declaration, tags, and character data, which is made of single
characters and references. Only the names that drawings need occur, values stand in double quotes,
and no character of a value or of character data could be taken for the start or the end of
something else. So a text splits into such lexemes in at most one way, and its row of tags is a
property of the text.
-/

namespace Chronogram.Svg

def elementNames : List String :=
  ["svg", "style", "defs", "marker", "path", "polyline", "polygon", "line", "rect", "text"]

def attributeNames : List String :=
  ["xmlns", "id", "width", "height", "viewBox", "refX", "refY", "markerWidth", "markerHeight",
    "orient", "d", "points", "fill", "stroke", "stroke-width", "stroke-dasharray", "x", "y", "x1",
    "y1", "x2", "y2", "text-anchor", "class", "marker-start", "marker-end"]

/-- A character that can stand in a value between double quotes. -/
def IsValueChar (c : Char) : Prop :=
  c ≠ '"' ∧ c ≠ '<' ∧ c ≠ '&'

/-- An attribute as it is written. -/
structure AttributeText where
  name : String
  value : List Char

def AttributeText.write (item : AttributeText) : List Char :=
  ' ' :: (item.name.toList ++ '=' :: '"' :: (item.value ++ ['"']))

/-- The name is known, and nothing in the value could end it. -/
structure AttributeText.WellFormed (item : AttributeText) : Prop where
  name : item.name ∈ attributeNames
  value : ∀ c ∈ item.value, IsValueChar c

/-- A lexical unit as it is written. -/
inductive Lexeme where
  | declaration
  | tag (name : String) (attributes : List AttributeText) (isEmpty : Bool)
  | endTag (name : String)
  | character (c : Char)
  | reference (text : List Char)

namespace Lexeme

def tagEnd (isEmpty : Bool) : List Char :=
  if isEmpty then " />".toList else ">".toList

def write : Lexeme → List Char
  | .declaration => declarationText.toList
  | .tag name attributes isEmpty =>
      '<' :: (name.toList ++ (attributes.flatMap AttributeText.write ++ tagEnd isEmpty))
  | .endTag name => '<' :: '/' :: (name.toList ++ ['>'])
  | .character c => [c]
  | .reference text => text

/-- Names are known, values are quoted safely, and character data has no character that could start
a tag or a reference. -/
def WellFormed : Lexeme → Prop
  | .declaration => True
  | .tag name attributes _ => name ∈ elementNames ∧ ∀ item ∈ attributes, item.WellFormed
  | .endTag name => name ∈ elementNames
  | .character c => c ≠ '<' ∧ c ≠ '&'
  | .reference text => text ∈ Markup.references

def isData : Lexeme → Bool
  | .character _ | .reference _ => true
  | _ => false

end Lexeme

/-- A text is made of these lexemes, and all of them are well formed. -/
structure Splits (text : String) (lexemes : List Lexeme) : Prop where
  written : text.toList = lexemes.flatMap Lexeme.write
  wellFormed : ∀ lexeme ∈ lexemes, lexeme.WellFormed

/-- A tag with the names of its attributes, without their values. -/
inductive Tag where
  | opening (name : String) (attributes : List String)
  | empty (name : String) (attributes : List String)
  | closing (name : String)
  deriving Repr, DecidableEq

def Tag.name : Tag → String
  | .opening name _ | .empty name _ | .closing name => name

def Lexeme.tag? : Lexeme → Option Tag
  | .tag name attributes isEmpty =>
      some (if isEmpty then .empty name (attributes.map AttributeText.name)
        else .opening name (attributes.map AttributeText.name))
  | .endTag name => some (.closing name)
  | .declaration | .character _ | .reference _ => none

def tags (lexemes : List Lexeme) : List Tag :=
  lexemes.filterMap Lexeme.tag?

/-- Every opening tag is closed by a tag of the same name, and elements lie inside each other or
behind each other. -/
inductive Balanced : List Lexeme → Prop where
  | nil : Balanced []
  | data (lexeme : Lexeme) (rest : List Lexeme) :
      lexeme.isData = true → Balanced rest → Balanced (lexeme :: rest)
  | empty (name : String) (attributes : List AttributeText) (rest : List Lexeme) :
      Balanced rest → Balanced (.tag name attributes true :: rest)
  | element (name : String) (attributes : List AttributeText) (inside rest : List Lexeme) :
      Balanced inside → Balanced rest →
        Balanced (.tag name attributes false :: (inside ++ .endTag name :: rest))

/-- The declaration, a line feed, one root element with balanced content, and a line feed. -/
def IsDocument (lexemes : List Lexeme) : Prop :=
  ∃ attributes inside, Balanced inside ∧ (∀ tag ∈ tags inside, tag.name ≠ "svg") ∧
    lexemes = .declaration :: .character '\n' :: .tag "svg" attributes false ::
      (inside ++ [.endTag "svg", .character '\n'])

/-! ### Splitting is unique -/

/-- A row of characters of one class ends where the class ends. -/
theorem eq_of_append_cons {belongs : Char → Prop} {first second restFirst restSecond : List Char}
    {c d : Char} (allFirst : ∀ e ∈ first, belongs e) (allSecond : ∀ e ∈ second, belongs e)
    (endsFirst : ¬belongs c) (endsSecond : ¬belongs d)
    (same : first ++ c :: restFirst = second ++ d :: restSecond) :
    first = second ∧ c = d ∧ restFirst = restSecond := by
  induction first generalizing second with
  | nil =>
      cases second with
      | nil =>
          obtain ⟨rfl, rfl⟩ := List.cons.inj same
          exact ⟨rfl, rfl, rfl⟩
      | cons e rest =>
          obtain ⟨rfl, -⟩ := List.cons.inj same
          exact absurd (allSecond _ List.mem_cons_self) endsFirst
  | cons e rest inductionHypothesis =>
      cases second with
      | nil =>
          obtain ⟨rfl, -⟩ := List.cons.inj same
          exact absurd (allFirst _ List.mem_cons_self) endsSecond
      | cons e' rest' =>
          obtain ⟨rfl, sameRest⟩ := List.cons.inj same
          obtain ⟨rfl, rest⟩ := inductionHypothesis (List.forall_mem_cons.mp allFirst).2
            (List.forall_mem_cons.mp allSecond).2 sameRest
          exact ⟨rfl, rest⟩

def IsNameChar (c : Char) : Prop :=
  c ≠ ' ' ∧ c ≠ '=' ∧ c ≠ '>' ∧ c ≠ '/' ∧ c ≠ '?'

instance (c : Char) : Decidable (IsNameChar c) :=
  inferInstanceAs (Decidable (_ ∧ _))

def IsName (text : List Char) : Prop :=
  text ≠ [] ∧ ∀ c ∈ text, IsNameChar c

instance (text : List Char) : Decidable (IsName text) :=
  have := List.decidableBAll IsNameChar text
  inferInstanceAs (Decidable (_ ∧ _))

theorem isName_of_mem_elementNames : ∀ name ∈ elementNames, IsName name.toList := by
  decide

theorem isName_of_mem_attributeNames : ∀ name ∈ attributeNames, IsName name.toList := by
  decide

/-- What is written behind the name of a tag does not continue the name. -/
theorem exists_cons_of_attributes (attributes : List AttributeText) (isEmpty : Bool)
    (rest : List Char) :
    ∃ c others, attributes.flatMap AttributeText.write ++ (Lexeme.tagEnd isEmpty ++ rest) =
      c :: others ∧ ¬IsNameChar c := by
  cases attributes with
  | nil => cases isEmpty <;> exact ⟨_, _, rfl, by decide⟩
  | cons item items => exact ⟨' ', _, rfl, by decide⟩

theorem tagEnd_ne_attribute {isEmpty : Bool} {item : AttributeText} (wellFormed : item.WellFormed)
    (rest others : List Char) : Lexeme.tagEnd isEmpty ++ rest ≠ item.write ++ others := by
  intro same
  obtain ⟨nonempty, plain⟩ := isName_of_mem_attributeNames item.name wellFormed.name
  obtain ⟨c, name, named⟩ := List.exists_cons_of_ne_nil nonempty
  have plainFirst := plain c (named ▸ List.mem_cons_self)
  cases isEmpty with
  | false => simp [Lexeme.tagEnd, AttributeText.write] at same
  | true =>
      simp only [Lexeme.tagEnd, AttributeText.write, named, ↓reduceIte, String.reduceToList,
        List.cons_append, List.cons.injEq, true_and] at same
      exact plainFirst.2.2.2.1 same.1.symm

theorem eq_of_write_attributes {first second : List AttributeText} {isEmpty isEmpty' : Bool}
    {rest rest' : List Char} (wellFormed : ∀ item ∈ first, item.WellFormed)
    (wellFormed' : ∀ item ∈ second, item.WellFormed)
    (same : first.flatMap AttributeText.write ++ (Lexeme.tagEnd isEmpty ++ rest) =
      second.flatMap AttributeText.write ++ (Lexeme.tagEnd isEmpty' ++ rest')) :
    first = second ∧ isEmpty = isEmpty' := by
  induction first generalizing second with
  | nil =>
      cases second with
      | nil => cases isEmpty <;> cases isEmpty' <;> simp_all [Lexeme.tagEnd]
      | cons item items =>
          rw [List.flatMap_nil, List.nil_append, List.flatMap_cons, List.append_assoc] at same
          exact absurd same (tagEnd_ne_attribute (wellFormed' item List.mem_cons_self) _ _)
  | cons item items inductionHypothesis =>
      obtain ⟨wellFormedItem, wellFormedItems⟩ := List.forall_mem_cons.mp wellFormed
      cases second with
      | nil =>
          rw [List.flatMap_nil, List.nil_append, List.flatMap_cons, List.append_assoc] at same
          exact absurd same.symm (tagEnd_ne_attribute wellFormedItem _ _)
      | cons item' items' =>
          obtain ⟨wellFormedItem', wellFormedItems'⟩ := List.forall_mem_cons.mp wellFormed'
          obtain ⟨name, value⟩ := item
          obtain ⟨name', value'⟩ := item'
          simp only [List.flatMap_cons, AttributeText.write, List.cons_append, List.append_assoc,
            List.cons.injEq, true_and, List.nil_append] at same
          have plain := (isName_of_mem_attributeNames name wellFormedItem.name).2
          have plain' := (isName_of_mem_attributeNames name' wellFormedItem'.name).2
          obtain ⟨sameName, -, sameValues⟩ :=
            eq_of_append_cons plain plain' (by decide) (by decide) same
          obtain ⟨rfl, -, sameItems⟩ :=
            eq_of_append_cons (fun c inside => (wellFormedItem.value c inside).1)
              (fun c inside => (wellFormedItem'.value c inside).1) (by simp) (by simp)
              (List.cons.inj sameValues).2
          obtain ⟨rfl, sameEnd⟩ := inductionHypothesis wellFormedItems wellFormedItems' sameItems
          rw [String.toList_injective sameName]
          exact ⟨rfl, sameEnd⟩

namespace Lexeme

/-- What the first two characters of a text say about the lexeme in front. -/
inductive Mark where
  | declaration
  | tag
  | endTag
  | character
  | reference
  deriving DecidableEq

def markOf : List Char → Mark
  | '<' :: '?' :: _ => .declaration
  | '<' :: '/' :: _ => .endTag
  | '<' :: _ => .tag
  | '&' :: _ => .reference
  | _ => .character

def mark : Lexeme → Mark
  | .declaration => .declaration
  | .tag .. => .tag
  | .endTag _ => .endTag
  | .character _ => .character
  | .reference _ => .reference

theorem markOf_write {lexeme : Lexeme} (wellFormed : lexeme.WellFormed) (rest : List Char) :
    markOf (lexeme.write ++ rest) = lexeme.mark := by
  cases lexeme with
  | declaration => rfl
  | tag name attributes isEmpty =>
      obtain ⟨nonempty, plain⟩ := isName_of_mem_elementNames name wellFormed.1
      obtain ⟨c, others, named⟩ := List.exists_cons_of_ne_nil nonempty
      obtain ⟨-, -, -, slash, question⟩ := plain c (named ▸ List.mem_cons_self)
      simp [write, named, markOf, mark, slash, question]
  | endTag name => rfl
  | character c =>
      obtain ⟨less, ampersand⟩ := wellFormed
      simp [write, markOf, mark, less, ampersand]
  | reference text =>
      have marked : ∀ text ∈ Markup.references, text.head? = some '&' := by decide
      obtain ⟨others, rfl⟩ := List.head?_eq_some_iff.mp (marked text wellFormed)
      rfl

theorem write_ne_nil {lexeme : Lexeme} (wellFormed : lexeme.WellFormed) : lexeme.write ≠ [] := by
  cases lexeme with
  | declaration => decide
  | tag | endTag | character => exact List.cons_ne_nil _ _
  | reference text =>
      have nonempty : ∀ text ∈ Markup.references, text ≠ [] := by decide
      exact nonempty text wellFormed

theorem eq_of_reference_append {first second rest rest' : List Char}
    (known : first ∈ Markup.references) (known' : second ∈ Markup.references)
    (same : first ++ rest = second ++ rest') : first = second := by
  have closed : ∀ text ∈ Markup.references, ∃ name, text = name ++ [';'] ∧ ∀ c ∈ name, c ≠ ';' := by
    intro text known
    simp only [Markup.references, List.mem_cons, List.not_mem_nil, or_false] at known
    rcases known with rfl | rfl | rfl | rfl | rfl
    · exact ⟨"&amp".toList, rfl, by simp⟩
    · exact ⟨"&quot".toList, rfl, by simp⟩
    · exact ⟨"&apos".toList, rfl, by simp⟩
    · exact ⟨"&gt".toList, rfl, by simp⟩
    · exact ⟨"&lt".toList, rfl, by simp⟩
  obtain ⟨name, rfl, unended⟩ := closed first known
  obtain ⟨name', rfl, unended'⟩ := closed second known'
  rw [List.append_assoc, List.append_assoc] at same
  obtain ⟨rfl, -⟩ := eq_of_append_cons unended unended' (by simp) (by simp) same
  rfl

theorem eq_of_write_append {first second : Lexeme} {rest rest' : List Char}
    (wellFormed : first.WellFormed) (wellFormed' : second.WellFormed)
    (same : first.write ++ rest = second.write ++ rest') : first = second := by
  -- The marks tell of which kind both lexemes are, so only pairs of one kind remain.
  have sameMark : first.mark = second.mark := by
    rw [← markOf_write wellFormed rest, same, markOf_write wellFormed']
  cases first with
  | declaration =>
      cases second with
      | declaration => rfl
      | _ => cases sameMark
  | tag name attributes isEmpty =>
      cases second with
      | tag name' attributes' isEmpty' =>
          simp only [write, List.cons_append, List.append_assoc, List.cons.injEq, true_and] at same
          obtain ⟨c, others, behind, ends⟩ := exists_cons_of_attributes attributes isEmpty rest
          obtain ⟨c', others', behind', ends'⟩ :=
            exists_cons_of_attributes attributes' isEmpty' rest'
          obtain ⟨sameName, rfl, rfl⟩ :=
            eq_of_append_cons (isName_of_mem_elementNames name wellFormed.1).2
              (isName_of_mem_elementNames name' wellFormed'.1).2 ends ends'
              (behind ▸ behind' ▸ same)
          obtain ⟨rfl, rfl⟩ :=
            eq_of_write_attributes wellFormed.2 wellFormed'.2 (behind.trans behind'.symm)
          rw [String.toList_injective sameName]
      | _ => cases sameMark
  | endTag name =>
      cases second with
      | endTag name' =>
          simp only [write, List.cons_append, List.append_assoc, List.cons.injEq, true_and] at same
          obtain ⟨sameName, -⟩ :=
            eq_of_append_cons (isName_of_mem_elementNames name wellFormed).2
              (isName_of_mem_elementNames name' wellFormed').2 (by decide) (by decide) same
          rw [String.toList_injective sameName]
      | _ => cases sameMark
  | character c =>
      cases second with
      | character c' => rw [(List.cons.inj same).1]
      | _ => cases sameMark
  | reference text =>
      cases second with
      | reference text' => rw [eq_of_reference_append wellFormed wellFormed' same]
      | _ => cases sameMark

theorem eq_of_flatMap_write {first second : List Lexeme}
    (wellFormed : ∀ lexeme ∈ first, lexeme.WellFormed)
    (wellFormed' : ∀ lexeme ∈ second, lexeme.WellFormed)
    (same : first.flatMap write = second.flatMap write) : first = second := by
  induction first generalizing second with
  | nil =>
      cases second with
      | nil => rfl
      | cons lexeme rest =>
          have nothing := (List.append_eq_nil_iff.mp same.symm).1
          exact absurd nothing (write_ne_nil (wellFormed' lexeme List.mem_cons_self))
  | cons lexeme rest inductionHypothesis =>
      obtain ⟨wellFormedFirst, wellFormedRest⟩ := List.forall_mem_cons.mp wellFormed
      cases second with
      | nil =>
          have nothing := (List.append_eq_nil_iff.mp same).1
          exact absurd nothing (write_ne_nil wellFormedFirst)
      | cons lexeme' rest' =>
          obtain ⟨wellFormedFirst', wellFormedRest'⟩ := List.forall_mem_cons.mp wellFormed'
          rw [List.flatMap_cons, List.flatMap_cons] at same
          obtain rfl := eq_of_write_append wellFormedFirst wellFormedFirst' same
          rw [inductionHypothesis wellFormedRest wellFormedRest' (List.append_cancel_left same)]

end Lexeme

/-- A text splits into lexemes in at most one way. -/
theorem Splits.unique {text : String} {first second : List Lexeme} (splits : Splits text first)
    (splits' : Splits text second) : first = second :=
  Lexeme.eq_of_flatMap_write splits.wellFormed splits'.wellFormed
    (splits.written.symm.trans splits'.written)

end Chronogram.Svg
