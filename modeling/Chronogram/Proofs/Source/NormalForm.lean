import Chronogram.Proofs.Occurrence
import Chronogram.Proofs.Source.OneLine
import Chronogram.Proofs.Source.Unchanged
import Chronogram.Proofs.Source.Visible

/-!
Preprocessing gives a normal form and loses nothing.

Statements come out trimmed, not empty, on one line each and in the order of their numbers; every raw
line is accounted for, as nothing, as a definition that the table of macros holds, or as a statement.
Where nothing is defined, the statements that come out are taken apart into themselves.
-/

namespace Chronogram

open Text

namespace Source

/-- A text on one line that is not empty and has no blanks at its ends. -/
structure Tidy (text : List Char) : Prop where
  nonempty : text ≠ []
  starts : ∀ c ∈ text.head?, isBlank c = false
  ends : ∀ c ∈ text.getLast?, isBlank c = false
  feedless : '\n' ∉ text

namespace Script

/-- The statements are numbered upwards and tidy, and the macros have names that words can have and
texts that are trimmed. -/
structure Normal (script : Script) : Prop where
  rising : script.lines.Pairwise fun line later => line.number < later.number
  tidy : ∀ line ∈ script.lines, Tidy line.text.toList
  macros : ∀ name text, script.macros.get? name = some text →
    IsName name.toList ∧ trim text.toList = text.toList

/-- What has become of the raw lines of a text. Each of them is one thing only; the statements that
come out are those on raw lines, expanded, with the numbers of these lines, apart from statements of
which nothing is left; and every name that is defined stands for the text of its last
definition. -/
structure AccountsFor (script : Script) (raws : List (List Char)) : Prop where
  told : ∀ raw ∈ raws, ∃! kind, RawLine.Describes raw kind
  statements : ∀ line, line ∈ script.lines ↔ ∃ index raw text, raws[index]? = some raw ∧
    RawLine.Describes raw (.statement text) ∧ line.number = index + 1 ∧
    line.text.toList = trim (script.macros.expand text) ∧ line.text.toList ≠ []
  recorded : ∀ raw ∈ raws, ∀ found, RawLine.Describes raw (.definition found) →
    found.name ∈ script.macros.keys
  definitions : ∀ name text, script.macros.get? name = some text ↔
    ∃ before raw after, raws = before ++ raw :: after ∧
      RawLine.Describes raw (.definition ⟨name, text⟩) ∧
      ∀ other ∈ after, ∀ found, RawLine.Describes other (.definition found) → found.name ≠ name

/-- The statements of a script, with a line feed between any two. -/
def source (script : Script) : String :=
  "\n".intercalate (script.lines.map Line.text)

end Script

/-! ### What comes out -/

theorem statementText?_eq_some_iff {macros : Macros} {raw : List Char} {text : String} :
    statementText? macros raw = some text ↔ ∃ statement,
      RawLine.Describes raw (.statement statement) ∧
        text.toList = trim (macros.expand statement) ∧ text.toList ≠ [] := by
  simp only [statementText?, Option.bind_eq_some_iff, RawLine.statement?_eq_some_iff]
  refine exists_congr fun statement => and_congr_right fun _ => ?_
  rw [Option.ite_none_left_eq_some, Option.some.injEq, List.isEmpty_iff]
  constructor
  · rintro ⟨nonempty, rfl⟩
    rw [String.toList_ofList]
    exact ⟨rfl, nonempty⟩
  · rintro ⟨same, nonempty⟩
    rw [← same]
    exact ⟨nonempty, String.ofList_toList⟩

theorem mem_numberedTexts_iff {text? : List Char → Option String} {start : Nat}
    {raws : List (List Char)} {line : Line} :
    line ∈ numberedTexts text? start raws ↔ ∃ index raw, raws[index]? = some raw ∧
      text? raw = some line.text ∧ line.number = start + index := by
  simp only [numberedTexts, List.mem_filterMap, Option.map_eq_some_iff, Prod.exists,
    List.mk_mem_zipIdx_iff_le_and_getElem?_sub]
  constructor
  · rintro ⟨raw, number, ⟨after, stands⟩, text, given, rfl⟩
    exact ⟨number - start, raw, stands, given, (Nat.add_sub_of_le after).symm⟩
  · rintro ⟨index, raw, stands, given, numbered⟩
    refine ⟨raw, line.number, ⟨numbered ▸ Nat.le_add_right start index, ?_⟩, line.text, given, rfl⟩
    rwa [numbered, Nat.add_sub_cancel_left]

theorem pairwise_numberedTexts (text? : List Char → Option String) (start : Nat)
    (raws : List (List Char)) :
    (numberedTexts text? start raws).Pairwise fun line later => line.number < later.number := by
  refine pairwise_filterMap_zipIdx (fun entry line made => ?_) raws start
  obtain ⟨text, -, rfl⟩ := Option.map_eq_some_iff.mp made
  rfl

theorem lastDefinition?_eq_some_iff {raws : List (List Char)} {name : String}
    {found : Definition} :
    lastDefinition? raws name = some found ↔
      ∃ before raw after, raws = before ++ raw :: after ∧
        (RawLine.Describes raw (.definition found) ∧ found.name = name) ∧
        ∀ other ∈ after, ∀ found, RawLine.Describes other (.definition found) →
          found.name ≠ name := by
  rw [lastDefinition?, List.filter_filterMap, getLast?_filterMap_eq_some_iff]
  simp only [Option.filter_eq_some_iff, Option.filter_eq_none_iff, definition?,
    definition?_eq_some_iff, decide_eq_true_eq]

theorem Defines.normal {line : List Char} {found : Definition} (defines : Defines line found) :
    IsName found.name.toList ∧ trim found.text.toList = found.text.toList := by
  obtain ⟨blanks, name, rest, -, isName, -, -, rfl⟩ := defines
  simp only [String.toList_ofList, trim_trim, and_true]
  exact isName

namespace Script

variable (raws : List (List Char))

theorem accountsFor_ofLines : (ofLines raws).AccountsFor raws where
  told raw _ := RawLine.existsUnique_describes raw
  statements line := by
    rw [lines_ofLines, mem_numberedTexts_iff]
    simp only [statementText?_eq_some_iff, Nat.add_comm 1]
    constructor
    · rintro ⟨index, raw, stands, ⟨text, describes, same, nonempty⟩, numbered⟩
      exact ⟨index, raw, text, stands, describes, numbered, same, nonempty⟩
    · rintro ⟨index, raw, text, stands, describes, numbered, same, nonempty⟩
      exact ⟨index, raw, stands, ⟨text, describes, same, nonempty⟩, numbered⟩
  recorded raw membership found describes := by
    rw [keys_macros_ofLines, List.mem_eraseDups, definedNames]
    refine List.mem_map_of_mem (List.mem_filterMap.mpr ⟨raw, membership, ?_⟩)
    exact definition?_eq_some_iff.mpr describes
  definitions name text := by
    simp only [get?_macros_ofLines, Option.map_eq_some_iff, lastDefinition?_eq_some_iff]
    constructor
    · rintro ⟨found, ⟨before, raw, after, split, ⟨describes, rfl⟩, last⟩, rfl⟩
      exact ⟨before, raw, after, split, describes, last⟩
    · rintro ⟨before, raw, after, split, describes, last⟩
      exact ⟨_, ⟨before, raw, after, split, ⟨describes, rfl⟩, last⟩, rfl⟩

theorem normal_ofText (text : String) : (ofText text).Normal where
  rising := by
    rw [ofText_eq, lines_ofLines]
    exact pairwise_numberedTexts _ 1 _
  tidy line stands := by
    have oneLine : '\n' ∉ line.text.toList := oneLine_of_mem_script stands
    rw [ofText_eq] at stands
    obtain ⟨_, _, expanded, -, -, -, same, nonempty⟩ :=
      ((accountsFor_ofLines _).statements line).mp stands
    refine ⟨nonempty, ?_, ?_, oneLine⟩ <;> rw [same]
    · exact startsOutside_trim _
    · exact ends_trim _
  macros name text given := by
    rw [ofText_eq] at given
    obtain ⟨_, _, _, -, describes, -⟩ := ((accountsFor_ofLines _).definitions name text).mp given
    cases describes with
    | definition defines => exact defines.normal

end Script

/-! ### Taking the statements apart again -/

/-- Without macros a statement comes out as what is visible of its line. -/
theorem statementText?_empty_eq_some_iff {raw : List Char} {text : String} :
    statementText? Table.empty raw = some text ↔
      RawLine.Describes raw (.statement text.toList) := by
  rw [statementText?_eq_some_iff]
  simp only [expand_empty]
  constructor
  · rintro ⟨statement, describes, same, -⟩
    cases describes with
    | statement nonempty undefined =>
        rw [visible, trim_trim, ← visible] at same
        rw [same]
        exact .statement nonempty undefined
  · intro describes
    refine ⟨text.toList, describes, ?_⟩
    generalize text.toList = statement at describes
    cases describes with
    | statement nonempty _ => exact ⟨(trim_trim _).symm, nonempty⟩

theorem RawLine.Describes.again {raw statement : List Char}
    (describes : Describes raw (.statement statement)) :
    Describes statement (.statement statement) := by
  have same := describes
  rw [describes_iff] at same ⊢
  cases describes with
  | statement => rw [ofText_visible, same]

theorem numberedTexts_map_toList {text? : List Char → Option String} {texts : List String}
    (kept : ∀ text ∈ texts, text? text.toList = some text) (start : Nat) :
    numberedTexts text? start (texts.map String.toList) =
      (texts.zipIdx start).map fun (text, number) => ⟨number, text⟩ := by
  induction texts generalizing start with
  | nil => rfl
  | cons text rest inductionHypothesis =>
      obtain ⟨first, others⟩ := List.forall_mem_cons.mp kept
      rw [List.map_cons, numberedTexts_cons, first, inductionHypothesis others]
      rfl

namespace Script

theorem lines_ofLines_of_undefined {raws : List (List Char)}
    (undefined : ∀ raw ∈ raws, ∀ found, ¬RawLine.Describes raw (.definition found)) :
    (ofLines raws).lines = numberedTexts (statementText? Table.empty) 1 raws := by
  have nothing : raws.filterMap definition? = [] := by
    refine List.filterMap_eq_nil_iff.mpr fun raw membership => ?_
    refine Option.eq_none_iff_forall_ne_some.mpr fun found defines => ?_
    exact undefined raw membership found (definition?_eq_some_iff.mp defines)
  have without : (ofLines raws).macros = Table.empty := by
    rw [macros_ofLines, nothing]
    rfl
  rw [lines_ofLines, without]

/-- Statements of a script that defines nothing come out as they have gone in. -/
theorem lines_ofText_source {text : String}
    (undefined : ∀ raw ∈ Text.lines text.toList, ∀ found,
      ¬RawLine.Describes raw (.definition found)) :
    (ofText (ofText text).source).lines =
      (((ofText text).lines.map Line.text).zipIdx 1).map fun (text, number) => ⟨number, text⟩ := by
  generalize given : (ofText text).lines.map Line.text = texts
  have statements : ∀ written ∈ texts,
      RawLine.Describes written.toList (.statement written.toList) := by
    intro written membership
    rw [← given, ofText_eq, lines_ofLines_of_undefined undefined, map_text_numberedTexts] at membership
    obtain ⟨raw, -, stated⟩ := List.mem_filterMap.mp membership
    exact (statementText?_empty_eq_some_iff.mp stated).again
  have whole : ∀ written ∈ texts.map String.toList,
      written ≠ [] ∧ '\n' ∉ written ∧ ∀ c ∈ written.getLast?, c ≠ '\r' := by
    rw [← given]
    simp only [List.forall_mem_map]
    intro line membership
    have tidy := (normal_ofText text).tidy line membership
    refine ⟨tidy.nonempty, tidy.feedless, ?_⟩
    rintro c last rfl
    exact absurd (tidy.ends _ last) (by decide)
  have cut : Text.lines (ofText text).source.toList = texts.map String.toList := by
    rw [source, given, String.toList_intercalate]
    exact lines_intercalate whole
  rw [ofText_eq, cut, lines_ofLines_of_undefined]
  · exact numberedTexts_map_toList
      (fun written membership => statementText?_empty_eq_some_iff.mpr (statements written membership)) 1
  · simp only [List.forall_mem_map]
    intro written membership found describes
    have same := (RawLine.describes_iff.mp describes).symm.trans
      (RawLine.describes_iff.mp (statements written membership))
    exact RawLine.noConfusion same

end Script

/-- Preprocessing gives a normal form and accounts for every raw line. The statements that come out
are numbered upwards, trimmed and not empty, with the numbers of the raw lines on which they stand;
each raw line is nothing, a definition that the macros record, or a statement; and where nothing is
defined the statements, put together with line feeds, come out again, numbered from one. -/
theorem preprocessing_normalises (text : String) :
    (Script.ofText text).Normal ∧
    (Script.ofText text).AccountsFor (lines text.toList) ∧
    ((∀ raw ∈ lines text.toList, ∀ found, ¬RawLine.Describes raw (.definition found)) →
      (Script.ofText (Script.ofText text).source).lines =
        (((Script.ofText text).lines.map Line.text).zipIdx 1).map
          fun (text, number) => ⟨number, text⟩) :=
  ⟨Script.normal_ofText text, Script.accountsFor_ofLines _, Script.lines_ofText_source⟩

/-- Blanks, comments and an unclosed field around two statements. -/
def plainSource : String :=
  "\u00A0wait # b\n\n#c\n \t\"x # y \r\n"

theorem plainSource_is_kept :
    (∀ raw ∈ lines plainSource.toList, ∀ found, ¬RawLine.Describes raw (.definition found)) ∧
    (Script.ofText plainSource).lines = [⟨1, "wait"⟩, ⟨4, "\"x # y"⟩] ∧
    (Script.ofText (Script.ofText plainSource).source).lines = [⟨1, "wait"⟩, ⟨2, "\"x # y"⟩] := by
  have unread : ∀ raw ∈ lines plainSource.toList, (RawLine.ofText raw).definition? = none := by
    decide +kernel
  have undefined : ∀ raw ∈ lines plainSource.toList, ∀ found,
      ¬RawLine.Describes raw (.definition found) := by
    intro raw membership found describes
    have read := definition?_eq_some_iff.mpr describes
    simp [unread raw membership] at read
  have taken : (Script.ofText plainSource).lines = [⟨1, "wait"⟩, ⟨4, "\"x # y"⟩] := by
    decide +kernel
  refine ⟨undefined, taken, ?_⟩
  rw [(preprocessing_normalises plainSource).2.2 undefined, taken]
  rfl

end Source

end Chronogram
