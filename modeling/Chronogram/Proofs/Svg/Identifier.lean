import Chronogram.Proofs.Svg.Characters
import Chronogram.Proofs.Text.Trim
import Mathlib.Logic.Function.Iterate

/-!
What identifiers look like.

The words of a text are its rows of letters, digits and underscores. No step on the way to an
identifier changes the words: characters that are no part of a word become dashes, rows of dashes
shrink, and dashes at the ends go away. In the end single dashes stand between the words and nowhere
else, so an identifier is its words joined by dashes, with a letter in front.
-/

namespace Chronogram.Svg.Identifier

open Text

def inWord (c : Char) : Bool :=
  c.isAlphanum || c = '_'

/-- The longest rows of letters, digits and underscores in a text. -/
def words (text : List Char) : List (List Char) :=
  (text.splitOnP fun c => !inWord c).filter (· ≠ [])

/-- Words with single dashes between them, and a letter in front. -/
def ofWords (words : List (List Char)) : List Char :=
  match ['-'].intercalate words with
  | [] => "t-untitled".toList
  | c :: rest => if c.isAlpha then c :: rest else 't' :: '-' :: c :: rest

/-- An identifier as it should be. -/
structure Canonical (text : List Char) : Prop where
  starts : ∃ c ∈ text.head?, c.isAlpha = true
  kept : ∀ c ∈ text, c.isAlphanum = true ∨ c = '-' ∨ c = '_'
  single : ¬['-', '-'] <:+: text
  ends : text.getLast? ≠ some '-'

theorem isKept_iff {c : Char} : isKept c = true ↔ inWord c = true ∨ c = '-' := by
  simp only [isKept, inWord, Bool.or_eq_true, decide_eq_true_eq]
  tauto

/-! ### Words -/

section Words

variable {c d : Char} {first second : List Char}

@[simp]
theorem words_nil : words [] = [] := rfl

theorem words_append_cons (separates : inWord c = false) (before behind : List Char) :
    words (before ++ c :: behind) = words before ++ words behind := by
  rw [words, List.splitOnP_append_cons before behind (by simp [separates]), List.filter_append]
  rfl

theorem words_cons (separates : inWord c = false) (text : List Char) :
    words (c :: text) = words text :=
  words_append_cons separates [] text

theorem words_of_forall {word : List Char} (nonempty : word ≠ [])
    (belong : ∀ c ∈ word, inWord c = true) : words word = [word] := by
  rw [words, List.splitOnP_eq_singleton fun c membership => by simp [belong c membership]]
  simp [nonempty]

/-- Two texts have the same words, also if the first of them has begun in front. -/
def SameWords (first second : List Char) : Prop :=
  ∀ row, (∀ c ∈ row, inWord c = true) → words (row ++ first) = words (row ++ second)

theorem SameWords.words_eq (same : SameWords first second) : words first = words second :=
  same [] (List.forall_mem_nil _)

theorem SameWords.cons (same : SameWords first second) (belongs : inWord c = true) :
    SameWords (c :: first) (c :: second) := by
  intro row inside
  have longer := same (row ++ [c])
    (List.forall_mem_append.mpr ⟨inside, List.forall_mem_singleton.mpr belongs⟩)
  rwa [List.append_assoc, List.append_assoc] at longer

theorem sameWords_of_separators (separates : inWord c = false)
    (separates' : inWord d = false) (same : words first = words second) :
    SameWords (c :: first) (d :: second) := by
  intro row _
  rw [words_append_cons separates, words_append_cons separates', same]

theorem words_append_of_separators {back : List Char} (separate : ∀ c ∈ back, inWord c = false)
    (text : List Char) : words (text ++ back) = words text := by
  induction back generalizing text with
  | nil => rw [List.append_nil]
  | cons c back inductionHypothesis =>
      obtain ⟨separates, others⟩ := List.forall_mem_cons.mp separate
      have nothing := inductionHypothesis others []
      rw [List.nil_append, words_nil] at nothing
      rw [words_append_cons separates, nothing, List.append_nil]

theorem words_separators_append {front : List Char}
    (separate : ∀ c ∈ front, inWord c = false) (text : List Char) :
    words (front ++ text) = words text := by
  induction front with
  | nil => rfl
  | cons c front inductionHypothesis =>
      obtain ⟨separates, others⟩ := List.forall_mem_cons.mp separate
      rw [List.cons_append, words_cons separates, inductionHypothesis others]

end Words

/-! ### Steps that keep the words -/

theorem inWord_dash : inWord '-' = false := by decide

theorem inWord_of_isBlank {c : Char} (blank : isBlank c = true) : inWord c = false := by
  have outside : ∀ code ∈ blankRanges.codes, inWord (Char.ofNat code) = false := by decide +kernel
  have found := outside _ (Ranges.mem_codes_of_contains blank)
  rwa [Char.ofNat_toNat] at found

theorem words_trim (raw : List Char) : words (trim raw) = words raw := by
  obtain ⟨front, back, blankFront, blankBack, whole⟩ := exists_split_trim raw
  have separateFront : ∀ c ∈ front, inWord c = false := fun c membership =>
    inWord_of_isBlank (blankFront c membership)
  have separateBack : ∀ c ∈ back, inWord c = false := fun c membership =>
    inWord_of_isBlank (blankBack c membership)
  rw [whole, words_separators_append separateFront, words_append_of_separators separateBack,
    ← whole]

theorem words_dashed (raw : List Char) : words (dashed raw) = words raw := by
  have same : ∀ text : List Char,
      SameWords (text.map fun c => if isKept c then c else '-') text := by
    intro text
    induction text with
    | nil => exact fun _ _ => rfl
    | cons c rest inductionHypothesis =>
        rw [List.map_cons]
        cases belongs : inWord c with
        | true =>
            rw [if_pos (isKept_iff.mpr (.inl belongs))]
            exact inductionHypothesis.cons belongs
        | false =>
            refine sameWords_of_separators ?_ belongs inductionHypothesis.words_eq
            split
            · exact belongs
            · exact inWord_dash
  rw [dashed, (same _).words_eq, words_trim]

theorem sameWords_mergePairs (text : List Char) : SameWords (mergePairs text) text := by
  fun_induction mergePairs text with
  | case1 rest inductionHypothesis =>
      refine sameWords_of_separators inWord_dash inWord_dash ?_
      rw [words_cons inWord_dash, inductionHypothesis.words_eq]
  | case2 c rest _ inductionHypothesis =>
      cases belongs : inWord c with
      | true => exact inductionHypothesis.cons belongs
      | false => exact sameWords_of_separators belongs belongs inductionHypothesis.words_eq
  | case3 => exact fun _ _ => rfl

theorem words_collapse (text : List Char) : words (collapse text) = words text := by
  fun_induction collapse text with
  | case1 text _ inductionHypothesis =>
      rw [inductionHypothesis, (sameWords_mergePairs text).words_eq]
  | case2 => rfl

theorem exists_split_trimDashes (text : List Char) :
    ∃ front back, (∀ c ∈ front, c = '-') ∧ (∀ c ∈ back, c = '-') ∧
      text = front ++ (trimDashes text ++ back) := by
  obtain ⟨front, back, dashesFront, dashesBack, whole⟩ := exists_split_dropWhile (· = '-') text
  exact ⟨front, back, by simpa using dashesFront, by simpa using dashesBack, whole⟩

theorem words_trimDashes (text : List Char) : words (trimDashes text) = words text := by
  obtain ⟨front, back, dashesFront, dashesBack, whole⟩ := exists_split_trimDashes text
  have separateFront : ∀ c ∈ front, inWord c = false := fun c membership =>
    dashesFront c membership ▸ inWord_dash
  have separateBack : ∀ c ∈ back, inWord c = false := fun c membership =>
    dashesBack c membership ▸ inWord_dash
  rw [whole, words_separators_append separateFront, words_append_of_separators separateBack,
    ← whole]

/-! ### The loop -/

theorem hasPair_iff {text : List Char} : hasPair text = true ↔ ['-', '-'] <:+: text := by
  fun_induction hasPair text with
  | case1 rest => simpa using List.prefix_append ['-', '-'] rest |>.isInfix
  | case2 c rest single inductionHypothesis =>
      have notFirst : ¬['-', '-'] <+: c :: rest := by
        rintro ⟨others, whole⟩
        obtain ⟨rfl, rfl⟩ := List.cons.inj whole
        exact single others rfl rfl
      rw [inductionHypothesis, List.infix_cons_iff, or_iff_right notFirst]
  | case3 => simp

/-- Merging pairs comes to an end, and then there are none left. -/
theorem exists_rounds (text : List Char) :
    ∃ rounds, (∀ round < rounds, ['-', '-'] <:+: mergePairs^[round] text) ∧
      ¬['-', '-'] <:+: mergePairs^[rounds] text ∧
      collapse text = mergePairs^[rounds] text := by
  fun_induction collapse text with
  | case1 text pair inductionHypothesis =>
      obtain ⟨rounds, before, behind, reached⟩ := inductionHypothesis
      refine ⟨rounds + 1, ?_, behind, reached⟩
      intro round earlier
      cases round with
      | zero => exact hasPair_iff.mp pair
      | succ round => exact before round (Nat.lt_of_succ_lt_succ earlier)
  | case2 text single =>
      exact ⟨0, by simp, fun pair => single (hasPair_iff.mpr pair), rfl⟩

/-! ### Words and single dashes -/

/-- A text that may go on behind a word: its dashes stand alone, and a word follows each. -/
structure Continuing (text : List Char) : Prop where
  kept : ∀ c ∈ text, isKept c = true
  single : ¬['-', '-'] <:+: text
  ends : ∀ c ∈ text.getLast?, c ≠ '-'

/-- A text in which dashes stand between words only. -/
structure Separated (text : List Char) : Prop extends Continuing text where
  starts : ∀ c ∈ text.head?, c ≠ '-'

theorem separated_trimDashes {text : List Char} (kept : ∀ c ∈ text, isKept c = true)
    (single : ¬['-', '-'] <:+: text) : Separated (trimDashes text) where
  kept c membership := kept c (mem_of_mem_trimDashes membership)
  single pair := by
    obtain ⟨front, back, -, -, whole⟩ := exists_split_trimDashes text
    apply single
    rw [whole]
    exact (pair.trans (List.prefix_append _ back).isInfix).trans (List.suffix_append front _).isInfix
  starts c first := of_decide_eq_false (startsOutside_rdropWhile (· = '-') text c first)
  ends c last := of_decide_eq_false (ends_rdropWhile (· = '-') _ c last)

theorem Continuing.tail {c : Char} {rest : List Char} (continuing : Continuing (c :: rest)) :
    Continuing rest where
  kept := (List.forall_mem_cons.mp continuing.kept).2
  single pair := continuing.single (List.infix_cons_iff.mpr (.inr pair))
  ends d last := by
    apply continuing.ends d
    rw [List.getLast?_cons, Option.mem_def.mp last]
    rfl

theorem Continuing.starts_tail {rest : List Char} (continuing : Continuing ('-' :: rest)) :
    ∀ c ∈ rest.head?, c ≠ '-' := by
  rintro _ first rfl
  obtain ⟨others, rfl⟩ := List.head?_eq_some_iff.mp first
  exact continuing.single (List.prefix_append ['-', '-'] others).isInfix

theorem intercalate_words_append {row text : List Char} (inside : ∀ c ∈ row, inWord c = true)
    (continuing : Continuing text) (starts : row = [] → ∀ c ∈ text.head?, c ≠ '-') :
    ['-'].intercalate (words (row ++ text)) = row ++ text := by
  induction text generalizing row with
  | nil =>
      rw [List.append_nil]
      by_cases nothing : row = []
      · rw [nothing]
        rfl
      · rw [words_of_forall nothing inside, List.intercalate_singleton]
  | cons c rest inductionHypothesis =>
      rcases isKept_iff.mp (continuing.kept c List.mem_cons_self) with belongs | rfl
      · -- The word goes on.
        have longer := inductionHypothesis
          (List.forall_mem_append.mpr ⟨inside, List.forall_mem_singleton.mpr belongs⟩)
          continuing.tail (by simp)
        rwa [List.append_assoc] at longer
      · have begun : row ≠ [] := fun nothing => starts nothing '-' rfl rfl
        have remaining := inductionHypothesis (List.forall_mem_nil _) continuing.tail
          (fun _ => continuing.starts_tail)
        rw [List.nil_append] at remaining
        rw [words_append_cons inWord_dash, words_of_forall begun inside]
        cases found : words rest with
        | nil =>
            rw [found] at remaining
            obtain rfl : [] = rest := remaining
            exact absurd rfl (continuing.ends '-' rfl)
        | cons word others =>
            rw [List.singleton_append, List.intercalate_cons_cons, ← found, remaining]
            simp

/-- Such a text is its words with single dashes between them. -/
theorem intercalate_words {text : List Char} (separated : Separated text) :
    ['-'].intercalate (words text) = text :=
  intercalate_words_append (List.forall_mem_nil _) separated.toContinuing fun _ => separated.starts

theorem separated_bare (raw : List Char) : Separated (trimDashes (collapse (dashed raw))) := by
  obtain ⟨rounds, -, single, reached⟩ := exists_rounds (dashed raw)
  refine separated_trimDashes (fun c membership => ?_) (reached ▸ single)
  exact isKept_of_mem_dashed (mem_of_mem_collapse membership)

theorem ofChars_eq_ofWords (raw : List Char) : ofChars raw = ofWords (words raw) := by
  have sameWords : words (trimDashes (collapse (dashed raw))) = words raw := by
    rw [words_trimDashes, words_collapse, words_dashed]
  rw [ofChars, ← intercalate_words (separated_bare raw), sameWords]
  rfl

/-! ### Canonical identifiers -/

theorem Canonical.separated {text : List Char} (canonical : Canonical text) : Separated text where
  kept c membership := by
    simpa [isKept, or_assoc] using canonical.kept c membership
  single := canonical.single
  starts := by
    obtain ⟨first, found, letter⟩ := canonical.starts
    rintro c other rfl
    obtain rfl := Option.mem_unique found other
    exact absurd letter (by decide)
  ends c last same := canonical.ends (same ▸ last)

theorem canonical_of_separated {c : Char} {rest : List Char} (separated : Separated (c :: rest))
    (letter : c.isAlpha = true) : Canonical (c :: rest) where
  starts := ⟨c, rfl, letter⟩
  kept d membership := by
    simpa [isKept, or_assoc] using separated.kept d membership
  single := separated.single
  ends last := separated.ends '-' last rfl

theorem canonical_startWithLetter {text : List Char} (separated : Separated text) :
    Canonical (startWithLetter text) := by
  cases text with
  | nil =>
      have unpaired : hasPair untitled = false := by decide
      have kept : untitled.all isKept = true := by decide
      refine ⟨⟨'t', rfl, by decide⟩, fun c membership => ?_, fun pair => ?_, by decide⟩
      · simpa [isKept, or_assoc] using List.all_eq_true.mp kept c membership
      · rw [← hasPair_iff, startWithLetter, unpaired] at pair
        cases pair
  | cons c rest =>
      by_cases letter : c.isAlpha = true
      · have unchanged : startWithLetter (c :: rest) = c :: rest := if_pos letter
        rw [unchanged]
        exact canonical_of_separated separated letter
      · have extended : startWithLetter (c :: rest) = 't' :: '-' :: c :: rest := if_neg letter
        rw [extended]
        have notDash : '-' ≠ c := (separated.starts c rfl).symm
        refine canonical_of_separated ⟨⟨?_, ?_, ?_⟩, ?_⟩ (by decide)
        · exact List.forall_mem_cons.mpr ⟨by decide, List.forall_mem_cons.mpr
            ⟨by decide, separated.kept⟩⟩
        · rw [List.infix_cons_iff, List.infix_cons_iff]
          rintro (first | second | behind)
          · exact absurd (List.cons_prefix_cons.mp first).1 (by decide)
          · exact notDash (List.cons_prefix_cons.mp (List.cons_prefix_cons.mp second).2).1
          · exact separated.single behind
        · intro d last
          exact separated.ends d (by simpa using last)
        · rintro d ⟨⟩
          decide

theorem canonical_ofChars (raw : List Char) : Canonical (ofChars raw) :=
  canonical_startWithLetter (separated_bare raw)

theorem ofChars_of_canonical {raw : List Char} (canonical : Canonical raw) : ofChars raw = raw := by
  obtain ⟨c, first, letter⟩ := canonical.starts
  obtain ⟨rest, rfl⟩ := List.head?_eq_some_iff.mp first
  rw [ofChars_eq_ofWords, ofWords, intercalate_words canonical.separated]
  exact if_pos letter

theorem ofText_of_canonical {raw : String} (canonical : Canonical raw.toList) :
    ofText raw = raw := by
  rw [ofText, ofChars_of_canonical canonical, String.ofList_toList]

theorem canonical_ofText (raw : String) : Canonical (ofText raw).toList := by
  rw [ofText, String.toList_ofList]
  exact canonical_ofChars raw.toList

/-- Every text becomes an identifier in the canonical form, which is made of the words of the text.
Merging pairs of dashes comes to an end, and what has the canonical form already is left alone. -/
theorem identifiers_are_canonical (raw : String) :
    (∃ rounds, (∀ round < rounds, ['-', '-'] <:+: mergePairs^[round] (dashed raw.toList)) ∧
      ¬['-', '-'] <:+: mergePairs^[rounds] (dashed raw.toList) ∧
      collapse (dashed raw.toList) = mergePairs^[rounds] (dashed raw.toList)) ∧
    (ofText raw).toList = ofWords (words raw.toList) ∧
    Canonical (ofText raw).toList ∧
    (Canonical raw.toList → ofText raw = raw) ∧
    ofText (ofText raw) = ofText raw := by
  refine ⟨exists_rounds _, ?_, canonical_ofText raw, ofText_of_canonical,
    ofText_of_canonical (canonical_ofText raw)⟩
  rw [ofText, String.toList_ofList, ofChars_eq_ofWords]

example : ofText "  Łódź -- diagram #1 " = "d-diagram-1" := by cbv

end Chronogram.Svg.Identifier
