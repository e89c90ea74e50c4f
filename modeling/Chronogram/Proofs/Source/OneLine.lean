import Chronogram.Proofs.Diagram.Printing
import Chronogram.Proofs.Source.DefinitionOrder
import Chronogram.Proofs.Source.Silence

/-!
Where the characters of a statement come from.

Every character of a field stands on the line of its statement, every character of that line stands
on a raw line, there or in the definition of a macro, and raw lines hold no line feed. So whatever is
read stays on one line.
-/

namespace Chronogram

open Source Text

namespace Source

theorem mem_of_mem_stripped {raw : List Char} {c : Char} (kept : c ∈ trim (stripComment raw)) :
    c ∈ raw :=
  mem_of_mem_beforeComment (mem_of_mem_trim kept)

theorem mem_of_mem_statement {raw text : List Char} {c : Char}
    (found : (RawLine.ofText raw).statement? = some text) (kept : c ∈ text) : c ∈ raw := by
  unfold RawLine.ofText at found
  split at found
  · simp [RawLine.statement?] at found
  · dsimp only at found
    split at found
    · simp [RawLine.statement?] at found
    · split at found
      · simp [RawLine.statement?] at found
      · obtain rfl := Option.some.inj found
        exact mem_of_mem_stripped kept

theorem mem_of_mem_definition {raw : List Char} {found : Definition} {c : Char}
    (defines : definition? raw = some found) (kept : c ∈ found.text.toList) : c ∈ raw := by
  unfold definition? RawLine.ofText at defines
  split at defines
  · simp [RawLine.definition?] at defines
  · dsimp only at defines
    split at defines
    · simp [RawLine.definition?] at defines
    · split at defines
      next read =>
        obtain rfl := Option.some.inj defines
        unfold Definition.read? at read
        simp only [Option.ite_none_right_eq_some, Option.some.injEq] at read
        obtain ⟨-, -, rfl⟩ := read
        rw [String.toList_ofList] at kept
        have inSpec := (List.dropWhile_sublist _).mem (mem_of_mem_trim kept)
        have inRest := (List.dropWhile_sublist _).mem inSpec
        exact mem_of_mem_stripped (List.mem_of_mem_drop inRest)
      next => simp [RawLine.definition?] at defines

section Expansion

variable {macros : Macros} {c : Char}

theorem mem_of_mem_replaceReversed {word : List Char} (kept : c ∈ macros.replaceReversed word) :
    c ∈ word ∨ ∃ name text, macros.get? name = some text ∧ c ∈ text.toList := by
  unfold Macros.replaceReversed at kept
  split at kept
  · simp at kept
  · unfold Macros.replace at kept
    split at kept
    next text found => exact .inr ⟨_, text, found, kept⟩
    next => exact .inl (List.mem_reverse.mp kept)

theorem mem_of_mem_expandFrom {seen line : List Char} (kept : c ∈ macros.expandFrom seen line) :
    (c ∈ seen ∨ c ∈ line) ∨ ∃ name text, macros.get? name = some text ∧ c ∈ text.toList := by
  induction line generalizing seen with
  | nil => exact (mem_of_mem_replaceReversed kept).imp_left .inl
  | cons d rest inductionHypothesis =>
      unfold Macros.expandFrom at kept
      split at kept
      · rcases inductionHypothesis kept with (earlier | later) | inMacro
        · rcases List.mem_cons.mp earlier with rfl | before
          · exact .inl (.inr List.mem_cons_self)
          · exact .inl (.inl before)
        · exact .inl (.inr (List.mem_cons_of_mem d later))
        · exact .inr inMacro
      · rcases List.mem_append.mp kept with inWord | behind
        · exact (mem_of_mem_replaceReversed inWord).imp_left .inl
        rcases List.mem_cons.mp behind with rfl | later
        · exact .inl (.inr List.mem_cons_self)
        rcases inductionHypothesis later with (nowhere | further) | inMacro
        · simp at nowhere
        · exact .inl (.inr (List.mem_cons_of_mem d further))
        · exact .inr inMacro

theorem mem_of_mem_expand {line : List Char} (kept : c ∈ macros.expand line) :
    c ∈ line ∨ ∃ name text, macros.get? name = some text ∧ c ∈ text.toList := by
  rw [Macros.expand_eq_expandFrom] at kept
  rcases mem_of_mem_expandFrom kept with (nowhere | onLine) | inMacro
  · simp at nowhere
  · exact .inl onLine
  · exact .inr inMacro

end Expansion

theorem mem_of_mem_script {text : String} {line : Line} (stands : line ∈ (Script.ofText text).lines)
    {c : Char} (kept : c ∈ line.text.toList) : ∃ raw ∈ lines text.toList, c ∈ raw := by
  rw [Script.ofText_eq] at stands
  have among := List.mem_map_of_mem (f := Line.text) stands
  rw [Script.texts_ofLines] at among
  obtain ⟨raw, membership, expands⟩ := List.mem_filterMap.mp among
  unfold statementText? at expands
  obtain ⟨statement, found, nonempty⟩ := Option.bind_eq_some_iff.mp expands
  simp only [Option.ite_none_left_eq_some, Option.some.injEq] at nonempty
  rw [← nonempty.2, String.toList_ofList] at kept
  rcases mem_of_mem_expand (mem_of_mem_trim kept) with onLine | ⟨name, replacement, given, here⟩
  · exact ⟨raw, membership, mem_of_mem_statement found onLine⟩
  · rw [Script.get?_macros_ofLines] at given
    obtain ⟨definition, last, rfl⟩ := Option.map_eq_some_iff.mp given
    have defined := (List.mem_filter.mp (List.mem_of_getLast? last)).1
    obtain ⟨origin, stood, defines⟩ := List.mem_filterMap.mp defined
    exact ⟨origin, stood, mem_of_mem_definition defines here⟩

theorem oneLine_of_mem_script {text : String} {line : Line}
    (stands : line ∈ (Script.ofText text).lines) : OneLine line.text := by
  intro fed
  obtain ⟨raw, membership, here⟩ := mem_of_mem_script stands fed
  exact feedless_of_mem_lines membership here

end Source

namespace Pattern

theorem Match.mem_line {pattern : Pattern} {line : List Char} {fields : Fields}
    (matched : Match pattern line fields) :
    ∀ entry ∈ fields, ∀ c ∈ entry.2, c ∈ line := by
  induction matched with
  | text => simp
  | one => simp
  | seq _ _ first second =>
      intro entry membership c here
      rcases List.mem_append.mp membership with before | behind
      · exact List.mem_append_left _ (first entry before c here)
      · exact List.mem_append_right _ (second entry behind c here)
  | left _ inductionHypothesis => exact inductionHypothesis
  | right _ inductionHypothesis => exact inductionHypothesis
  | absent => simp
  | present _ inductionHypothesis => exact inductionHypothesis
  | done => simp
  | more _ _ first others =>
      intro entry membership c here
      rcases List.mem_append.mp membership with before | behind
      · exact List.mem_append_left _ (first entry before c here)
      · exact List.mem_append_right _ (others entry behind c here)
  | field _ inductionHypothesis =>
      intro entry membership c here
      rcases List.mem_cons.mp membership with rfl | within
      · exact here
      · exact inductionHypothesis entry within c here

end Pattern

/-- A statement without line feeds in its fields. -/
def Statement.Feedless (statement : Statement) : Prop :=
  ∀ entry ∈ statement.fields, '\n' ∉ entry.2

theorem Statement.feedless_of_read? {line : String} {statement : Statement}
    (oneLine : OneLine line) (read : Statement.read? line = some statement) :
    statement.Feedless := by
  intro entry membership fed
  have found := Statement.read?_eq_some_iff_readKind?.mp read
  exact oneLine ((Statement.match_of_readKind? found).2.mem_line entry membership _ fed)

end Chronogram
