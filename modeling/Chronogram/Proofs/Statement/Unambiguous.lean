import Chronogram.Diagram.Draft
import Chronogram.Proofs.Statement.Reading

/-!
Every line can be read in one way at most.

A line has the form of at most one kind, and splits into the fields of that form in one way only.
The order in which the kinds are tried therefore does not matter, and what a draft carries out is
the statement with the fields of that split.
-/

namespace Chronogram

open Pattern Reader

namespace Statement

theorem readKind?_reads (kind : StatementKind) (line : List Char) :
    Reads kind [] kind.pieces line (readKind? kind line) := by
  cases kind with
  | config => exact readConfig?_reads line
  | title => exact readTitle?_reads line
  | lifeline => exact readLifeline?_reads line
  | style => exact readStyle?_reads line
  | state => exact readState?_reads line
  | span => exact readSpan?_reads line
  | arrow => exact readArrow?_reads line
  | tick => exact readTick?_reads line

theorem match_of_readKind? {kind : StatementKind} {line : List Char} {statement : Statement}
    (found : readKind? kind line = some statement) :
    statement.kind = kind ∧ Match kind.pattern line statement.fields := by
  obtain ⟨sameKind, fields, matched, sameFields⟩ := (readKind?_reads kind line).sound _ found
  rw [sameFields]
  exact ⟨sameKind, matched⟩

theorem readKind?_of_match {kind : StatementKind} {line : List Char} {fields : Fields}
    (matched : Match kind.pattern line fields) :
    ∃ statement, readKind? kind line = some statement ∧ statement.fields = fields :=
  (readKind?_reads kind line).complete fields matched

end Statement

def StatementKind.opening : StatementKind → List Char
  | .arrow | .tick => ['T']
  | kind => kind.name.toList

namespace StatementKind

theorem opening_prefix {kind : StatementKind} {line : List Char} {fields : Fields}
    (matched : Match kind.pattern line fields) : kind.opening <+: line := by
  have starts : ∃ pieces, kind.pieces = .text kind.opening :: pieces := by
    cases kind <;> exact ⟨_, rfl⟩
  obtain ⟨pieces, split⟩ := starts
  rw [pattern, split] at matched
  obtain ⟨front, rest, _, _, first, _, rfl, _⟩ := match_sequence_cons.mp matched
  obtain ⟨rfl, -⟩ := match_text_iff.mp first
  exact List.prefix_append _ rest

/-- Only arrows and observations have openings of which one continues the other. -/
theorem eq_of_opening_prefix {kind kind' : StatementKind}
    (continues : kind.opening <+: kind'.opening) :
    kind = kind' ∨ kind = .arrow ∧ kind' = .tick ∨ kind = .tick ∧ kind' = .arrow := by
  revert continues
  cases kind <;> cases kind' <;> decide

end StatementKind

namespace Reader

/-- The tick of an arrow stands in front of a colon. -/
theorem tick?_of_readArrow? {line : List Char} {statement : Statement}
    (found : readArrow? line = some statement) :
    ∃ digits rest, tick? line = some (digits, ':' :: rest) := by
  obtain ⟨⟨origin, _⟩, endFound, _⟩ := Option.bind_eq_some_iff.mp found
  obtain ⟨⟨digits, rest⟩, tickFound, behindTick⟩ := Option.bind_eq_some_iff.mp endFound
  obtain ⟨after, colonFound, _⟩ := Option.bind_eq_some_iff.mp behindTick
  obtain rfl := exactly?_eq_some_iff.mp colonFound
  exact ⟨digits, after, tickFound⟩

/-- The tick of an observation stands in front of a blank. -/
theorem tick?_of_readTick? {line : List Char} {statement : Statement}
    (found : readTick? line = some statement) :
    ∃ digits c rest, tick? line = some (digits, c :: rest) ∧ Text.isBlank c = true := by
  obtain ⟨⟨digits, rest⟩, tickFound, behindTick⟩ := Option.bind_eq_some_iff.mp found
  obtain ⟨after, blanksFound, _⟩ := Option.bind_eq_some_iff.mp behindTick
  obtain ⟨front, nonempty, inside, -, rfl⟩ := blanks?_eq_some_iff.mp blanksFound
  cases front with
  | nil => exact absurd rfl nonempty
  | cons c front => exact ⟨digits, c, front ++ after, tickFound, inside c (by simp)⟩

theorem not_readTick?_of_readArrow? {line : List Char} {arrow tick : Statement}
    (arrowFound : readArrow? line = some arrow) : readTick? line ≠ some tick := by
  intro tickFound
  obtain ⟨digits, rest, beforeColon⟩ := tick?_of_readArrow? arrowFound
  obtain ⟨_, c, _, beforeBlank, blank⟩ := tick?_of_readTick? tickFound
  rw [beforeColon] at beforeBlank
  simp only [Option.some.injEq, Prod.mk.injEq, List.cons.injEq] at beforeBlank
  obtain ⟨-, rfl, -⟩ := beforeBlank
  exact absurd blank (by decide)

end Reader

namespace Statement

/-- The readers of two kinds never both read a line. -/
theorem kind_unique {kind kind' : StatementKind} {line : List Char} {statement other : Statement}
    (found : readKind? kind line = some statement)
    (otherFound : readKind? kind' line = some other) : kind = kind' := by
  have opens := StatementKind.opening_prefix (match_of_readKind? found).2
  have otherOpens := StatementKind.opening_prefix (match_of_readKind? otherFound).2
  have cases : kind = kind' ∨ kind = .arrow ∧ kind' = .tick ∨ kind = .tick ∧ kind' = .arrow := by
    rcases List.prefix_or_prefix_of_prefix opens otherOpens with continues | continues
    · exact StatementKind.eq_of_opening_prefix continues
    · rcases StatementKind.eq_of_opening_prefix continues with same | ⟨rfl, rfl⟩ | ⟨rfl, rfl⟩
      · exact .inl same.symm
      · exact .inr (.inr ⟨rfl, rfl⟩)
      · exact .inr (.inl ⟨rfl, rfl⟩)
  rcases cases with same | ⟨rfl, rfl⟩ | ⟨rfl, rfl⟩
  · exact same
  · exact absurd otherFound (not_readTick?_of_readArrow? found)
  · exact absurd found (not_readTick?_of_readArrow? otherFound)

theorem findSome?_readKind?_eq_some_iff {order : List StatementKind} {line : List Char}
    {statement : Statement} :
    (order.findSome? fun kind => readKind? kind line) = some statement ↔
      statement.kind ∈ order ∧ readKind? statement.kind line = some statement := by
  constructor
  · intro found
    obtain ⟨kind, membership, read⟩ := List.exists_of_findSome?_eq_some found
    obtain ⟨rfl, -⟩ := match_of_readKind? read
    exact ⟨membership, read⟩
  · rintro ⟨membership, read⟩
    cases found : order.findSome? fun kind => readKind? kind line with
    | none =>
        have unread := List.findSome?_eq_none_iff.mp found _ membership
        simp [read] at unread
    | some other =>
        obtain ⟨kind, -, otherRead⟩ := List.exists_of_findSome?_eq_some found
        obtain rfl := kind_unique read otherRead
        exact otherRead.symm.trans read

theorem mem_kinds (kind : StatementKind) : kind ∈ kinds := by
  cases kind <;> decide

theorem read?_eq_some_iff_readKind? {line : String} {statement : Statement} :
    read? line = some statement ↔ readKind? statement.kind line.toList = some statement := by
  unfold read?
  rw [findSome?_readKind?_eq_some_iff]
  simp [mem_kinds]

/-- A line is read as a statement exactly if it splits into the fields of that statement. -/
theorem readKind?_kind_eq_some_iff {line : List Char} {statement : Statement} :
    readKind? statement.kind line = some statement ↔
      Match statement.kind.pattern line statement.fields := by
  constructor
  · intro found
    exact (match_of_readKind? found).2
  · intro matched
    obtain ⟨read, found, sameFields⟩ := readKind?_of_match matched
    obtain rfl := eq_of_fields_eq (match_of_readKind? found).1 sameFields
    exact found

theorem mem_matchingKinds_iff {line : String} {kind : StatementKind} :
    kind ∈ matchingKinds line ↔ ∃ fields, Match kind.pattern line.toList fields := by
  simp only [matchingKinds, List.mem_filter, mem_kinds, true_and, Option.isSome_iff_exists]
  constructor
  · rintro ⟨statement, found⟩
    exact ⟨_, (match_of_readKind? found).2⟩
  · rintro ⟨fields, matched⟩
    obtain ⟨statement, found, -⟩ := readKind?_of_match matched
    exact ⟨statement, found⟩

/-- Two splits of a line are the same split along the pattern of the same kind. -/
theorem match_unique {kind kind' : StatementKind} {line : List Char} {fields fields' : Fields}
    (matched : Match kind.pattern line fields) (matched' : Match kind'.pattern line fields') :
    kind = kind' ∧ fields = fields' := by
  obtain ⟨statement, found, rfl⟩ := readKind?_of_match matched
  obtain ⟨statement', found', rfl⟩ := readKind?_of_match matched'
  obtain rfl := kind_unique found found'
  obtain rfl : statement = statement' := Option.some.inj (found.symm.trans found')
  exact ⟨rfl, rfl⟩

theorem length_matchingKinds_le_one (line : String) : (matchingKinds line).length ≤ 1 := by
  have distinct : (matchingKinds line).Nodup :=
    List.Pairwise.sublist List.filter_sublist (by decide : kinds.Nodup)
  have same : ∀ kind ∈ matchingKinds line, ∀ kind' ∈ matchingKinds line, kind = kind' := by
    intro kind membership kind' membership'
    obtain ⟨_, matched⟩ := mem_matchingKinds_iff.mp membership
    obtain ⟨_, matched'⟩ := mem_matchingKinds_iff.mp membership'
    exact (match_unique matched matched').1
  cases kindsFound : matchingKinds line with
  | nil => simp
  | cons kind rest =>
      cases rest with
      | nil => simp
      | cons kind' rest =>
          rw [kindsFound] at distinct same
          obtain rfl := same kind (by simp) kind' (by simp)
          simp at distinct

end Statement

/-- The line grammar is exclusive and unambiguous. At most one kind has a form that a line has, and
along that form the line splits into fields in one way only; the kinds may be tried in any order;
and what a draft carries out is the statement with exactly these fields. -/
theorem line_splits_one_way (line : String) :
    (∀ (kind kind' : StatementKind) fields fields', Match kind.pattern line.toList fields →
      Match kind'.pattern line.toList fields' → kind = kind' ∧ fields = fields') ∧
    (Statement.matchingKinds line).length ≤ 1 ∧
    (∀ kind : StatementKind, kind ∈ Statement.matchingKinds line ↔
      ∃ fields, Match kind.pattern line.toList fields) ∧
    (∀ order : List StatementKind, order.Perm Statement.kinds →
      (order.findSome? fun kind => Statement.readKind? kind line.toList) = Statement.read? line) ∧
    (∀ statement, Statement.read? line = some statement ↔
      Match statement.kind.pattern line.toList statement.fields) ∧
    (∀ (kind : StatementKind) fields, Match kind.pattern line.toList fields →
      ∃ statement : Statement, statement.kind = kind ∧ statement.fields = fields ∧
        ∀ (mode : Mode) (draft : Draft) (number : Nat), draft.step mode ⟨number, line⟩ =
          match draft.diagram.apply statement with
          | .ok diagram => .ok ({ draft with diagram }, some kind)
          | .error fault => .error ⟨number, fault⟩) := by
  refine ⟨fun _ _ _ _ => Statement.match_unique, Statement.length_matchingKinds_le_one line,
    fun _ => Statement.mem_matchingKinds_iff, ?_, ?_, ?_⟩
  · intro order permuted
    refine Option.ext fun statement => ?_
    rw [Statement.findSome?_readKind?_eq_some_iff, Statement.read?_eq_some_iff_readKind?,
      permuted.mem_iff]
    simp [Statement.mem_kinds]
  · intro statement
    rw [Statement.read?_eq_some_iff_readKind?, Statement.readKind?_kind_eq_some_iff]
  · intro kind fields matched
    obtain ⟨statement, found, sameFields⟩ := Statement.readKind?_of_match matched
    obtain ⟨rfl, -⟩ := Statement.match_of_readKind? found
    have read : Statement.read? line = some statement :=
      Statement.read?_eq_some_iff_readKind?.mpr found
    refine ⟨statement, rfl, sameFields, fun mode draft number => ?_⟩
    cases applied : draft.diagram.apply statement <;> simp only [Draft.step, read, applied]

end Chronogram
