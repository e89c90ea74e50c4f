import Chronogram.Proofs.Diagram.Printing
import Chronogram.Proofs.Diagram.RoundTrip
import Chronogram.Proofs.Diagram.WellBuilt

/-!
What an observation says.

A tick statement gives a time, a lifeline and a state. `Diagram.Resolves` says what these fields
mean, and which of them is to blame if they mean nothing: numbers are told by the value of their
digits, labels by the least slot that holds them, and the fields are looked at from left to right.
Carrying out the statement adds the tick that its fields mean.

A state can be written in several ways: as an index, as a quoted text with backslashes, or as a bare
text without them. `Builder.MayReplace` says that a line could as well have been written with
another statement.
-/

namespace Chronogram

open Text Pattern

/-- The label that a state field stands for. A bare row of ASCII digits stands for none. -/
def StateField.label? : StateField → Option String
  | .quoted raw => some (fieldMarkup raw)
  | .bare token =>
      if token.toList.all Char.isDigit then none else some (plainMarkup token)

/-- The field gives a state by its label or by its index. -/
def StateField.Gives (field : StateField) (label : String) (index : Nat) : Prop :=
  field.label? = some label ∨
    ∃ numeral, field = .bare numeral ∧ Numeral.Denotes numeral.toList index

/-- What a state field means for a lifeline with a name. -/
inductive Lifeline.Means (lifeline : Lifeline) (name : String) :
    StateField → Except Fault Nat → Prop
  /-- A bare row of digits is an index, whether or not the row is also a label. -/
  | literal {token index} : Numeral.Denotes token.toList index → index < 2 ^ 64 →
      Means lifeline name (.bare token) (.ok index)
  | tooLong {token index} : Numeral.Denotes token.toList index → 2 ^ 64 ≤ index →
      Means lifeline name (.bare token) (.error (.invalidStateIndex token))
  | labelled {field label index} : field.label? = some label →
      IsLeast {slot | lifeline.states.get? slot = some label} index →
      Means lifeline name field (.ok index)
  | unlabelled {field label} : field.label? = some label →
      (∀ slot, lifeline.states.get? slot ≠ some label) →
      Means lifeline name field (.error (.unknownState name label))

/-- What the fields of a tick statement mean in a diagram. -/
inductive Diagram.Resolves (diagram : Diagram) (token name : String) (field : StateField) :
    Except Fault Tick → Prop
  /-- Digits of other scripts have no value. -/
  | foreignDigit {c} : c ∈ token.toList → c.isDigit = false →
      Resolves diagram token name field (.error (.invalidNumber token))
  | tooLong {time} : Numeral.Denotes token.toList time → 2 ^ 64 ≤ time →
      Resolves diagram token name field (.error (.invalidNumber token))
  | tooLate {time} : Numeral.Denotes token.toList time → time < 2 ^ 64 → 100000 < time →
      Resolves diagram token name field (.error (.limitExceeded .tickTime time))
  | undeclared {time} : Numeral.Denotes token.toList time → time ≤ 100000 →
      fieldMarkup name ∉ diagram.lifelines.keys →
      Resolves diagram token name field (.error (.unknownLifeline (fieldMarkup name)))
  | declared {time lifeline meant} : Numeral.Denotes token.toList time → time ≤ 100000 →
      diagram.lifelines.get? (fieldMarkup name) = some lifeline →
      lifeline.Means (fieldMarkup name) field meant →
      Resolves diagram token name field (meant.map fun index => ⟨time, fieldMarkup name, index⟩)

/-- A state field that can stand at the end of a tick line. -/
def StateField.CanStand : StateField → Prop
  | .quoted raw => Quoted.Raw raw.toList
  | .bare token => IsRow (fun c => !isBlank c && c ≠ '"') token.toList

theorem StateField.canStand_rawField (text : String) :
    (StateField.quoted (rawField text)).CanStand := by
  rw [CanStand, rawField, String.toList_ofList]
  exact Quoted.raw_escape _

theorem IsRow.ne_plus_cons {text : List Char} (isRow : IsRow isDigit text) (rest : List Char) :
    text ≠ '+' :: rest := by
  rintro rfl
  exact absurd (isRow.2 '+' List.mem_cons_self) (by decide)

namespace Text.Numeral

variable {text : List Char} {n : Nat}

theorem Denotes.isRow (denotes : Denotes text n) (nonempty : text ≠ []) : IsRow isDigit text :=
  ⟨nonempty, fun c membership => isDigit_of_ascii (denotes.1 c membership)⟩

/-- A text has one value at most, so a value that is too great is the only one. -/
theorem Denotes.le_of_le {other bound : Nat} (denotes : Denotes text n) (great : bound ≤ n)
    (otherwise : Denotes text other) : bound ≤ other :=
  otherwise.2 ▸ denotes.2 ▸ great

theorem unsigned?_wordBound_eq_some_iff (isRow : IsRow isDigit text) :
    unsigned? wordBound text = some n ↔ Denotes text n ∧ n < 2 ^ 64 :=
  unsigned?_eq_some_iff isRow.1 isRow.ne_plus_cons

theorem unsigned?_wordBound_eq_none (isRow : IsRow isDigit text)
    (valueless : ∀ n, Denotes text n → 2 ^ 64 ≤ n) : unsigned? wordBound text = none := by
  refine Option.eq_none_iff_forall_ne_some.mpr fun n read => ?_
  obtain ⟨denotes, within⟩ := (unsigned?_wordBound_eq_some_iff isRow).mp read
  exact absurd (valueless n denotes) (Nat.not_le_of_lt within)

end Text.Numeral

theorem numberOf_eq_ok {token : String} {n : Nat} (isRow : IsRow isDigit token.toList)
    (denotes : Numeral.Denotes token.toList n) (within : n < 2 ^ 64) : numberOf token = .ok n := by
  rw [numberOf, (Numeral.unsigned?_wordBound_eq_some_iff isRow).mpr ⟨denotes, within⟩]

theorem numberOf_eq_error {token : String} (isRow : IsRow isDigit token.toList)
    (valueless : ∀ n, Numeral.Denotes token.toList n → 2 ^ 64 ≤ n) :
    numberOf token = .error (.invalidNumber token) := by
  rw [numberOf, Numeral.unsigned?_wordBound_eq_none isRow valueless]

section States

variable {lifeline : Lifeline} {name : String} {field : StateField} {meant : Except Fault Nat}

theorem Diagram.stateOf_of_label? {label : String} (stands : field.label? = some label) :
    stateOf lifeline name field = labelledState lifeline name label := by
  cases field with
  | quoted raw =>
      obtain rfl := Option.some.inj stands
      rfl
  | bare token =>
      simp only [StateField.label?, Option.ite_none_left_eq_some] at stands
      obtain ⟨notDigits, same⟩ := stands
      have notNumeral : ¬Numeral.isNumeral token.toList = true := fun numeral =>
        notDigits (List.all_eq_true.mpr (Numeral.isNumeral_iff.mp numeral).2)
      rw [stateOf, if_neg notNumeral, Option.some.inj same]

theorem Diagram.stateOf_bare {token : String} {index : Nat} (nonempty : token.toList ≠ [])
    (denotes : Numeral.Denotes token.toList index) :
    stateOf lifeline name (.bare token) =
      if index < 2 ^ 64 then .ok index else .error (.invalidStateIndex token) := by
  have numeral : Numeral.isNumeral token.toList = true :=
    Numeral.isNumeral_iff.mpr ⟨nonempty, denotes.1⟩
  have isRow := denotes.isRow nonempty
  rw [stateOf, if_pos numeral]
  by_cases within : index < 2 ^ 64
  · rw [(Numeral.unsigned?_wordBound_eq_some_iff isRow).mpr ⟨denotes, within⟩, if_pos within]
  · have great : 2 ^ 64 ≤ index := Nat.le_of_not_lt within
    rw [Numeral.unsigned?_wordBound_eq_none isRow fun _ => denotes.le_of_le great, if_neg within]

theorem Diagram.stateOf_eq_of_means (canStand : field.CanStand)
    (means : lifeline.Means name field meant) : stateOf lifeline name field = meant := by
  cases means with
  | literal denotes within => rw [stateOf_bare canStand.1 denotes, if_pos within]
  | tooLong denotes great => rw [stateOf_bare canStand.1 denotes, if_neg (Nat.not_lt_of_le great)]
  | labelled stands least =>
      rw [stateOf_of_label? stands, labelledState, Catalog.position?_eq_some_iff.mpr least]
  | unlabelled stands nowhere =>
      rw [stateOf_of_label? stands, labelledState, Catalog.position?_eq_none_iff.mpr nowhere]

theorem Diagram.stateOf_of_gives (canStand : field.CanStand) {label : String} {index : Nat}
    (least : IsLeast {slot | lifeline.states.get? slot = some label} index)
    (within : index < 2 ^ 64) (gives : field.Gives label index) :
    stateOf lifeline name field = .ok index := by
  rcases gives with stands | ⟨numeral, rfl, denotes⟩
  · exact stateOf_eq_of_means canStand (.labelled stands least)
  · exact stateOf_eq_of_means canStand (.literal denotes within)

theorem Lifeline.exists_means (lifeline : Lifeline) (name : String) (field : StateField) :
    ∃ meant, lifeline.Means name field meant := by
  cases stands : field.label? with
  | some label =>
      cases found : lifeline.states.position? label with
      | some index => exact ⟨_, .labelled stands (Catalog.position?_eq_some_iff.mp found)⟩
      | none => exact ⟨_, .unlabelled stands (Catalog.position?_eq_none_iff.mp found)⟩
  | none =>
      cases field with
      | quoted raw => simp [StateField.label?] at stands
      | bare token =>
          have digits : ∀ c ∈ token.toList, c.isDigit = true := by
            simpa [StateField.label?] using stands
          have denotes : Numeral.Denotes token.toList _ := ⟨digits, rfl⟩
          rcases Nat.lt_or_ge (Nat.ofDigitChars 10 token.toList 0) (2 ^ 64) with within | great
          · exact ⟨_, .literal denotes within⟩
          · exact ⟨_, .tooLong denotes great⟩

end States

namespace Diagram

variable {diagram : Diagram} {token name : String} {field : StateField}
  {result : Except Fault Tick}

def withTick (diagram : Diagram) (tick : Tick) : Diagram :=
  { diagram with ticks := diagram.ticks ++ [tick] }

theorem withTick_injective (diagram : Diagram) : Function.Injective diagram.withTick := by
  intro tick other same
  have ticks : diagram.ticks ++ [tick] = diagram.ticks ++ [other] := congrArg Diagram.ticks same
  exact List.singleton_inj.mp (List.append_cancel_left ticks)

/-- Carrying out a tick statement adds what its fields mean. -/
theorem observe_eq_of_resolves (isRow : IsRow isDigit token.toList) (canStand : field.CanStand)
    (resolves : diagram.Resolves token name field result) :
    diagram.observe token (fieldMarkup name) field = result.map diagram.withTick := by
  unfold observe
  cases resolves with
  | foreignDigit membership foreign =>
      have valueless : ∀ n, Numeral.Denotes token.toList n → 2 ^ 64 ≤ n := by
        intro n denotes
        rw [denotes.1 _ membership] at foreign
        exact Bool.noConfusion foreign
      rw [numberOf_eq_error isRow valueless]
      rfl
  | tooLong denotes great =>
      rw [numberOf_eq_error isRow fun _ => denotes.le_of_le great]
      rfl
  | @tooLate time denotes within late =>
      have refused : checkLimit .tickTime time = .error (.limitExceeded .tickTime time) :=
        if_pos late
      rw [numberOf_eq_ok isRow denotes within]
      simp only [bind, Except.bind, refused]
      rfl
  | @undeclared time denotes early unknown =>
      have accepted : checkLimit .tickTime time = .ok () := checkLimit_of_le early
      have missing : diagram.declared (fieldMarkup name) =
          .error (.unknownLifeline (fieldMarkup name)) := by
        rw [declared, Table.get?_eq_none_iff.mpr unknown]
      rw [numberOf_eq_ok isRow denotes (by omega)]
      simp only [bind, Except.bind, accepted, missing]
      rfl
  | @declared time lifeline meant denotes early found means =>
      have accepted : checkLimit .tickTime time = .ok () := checkLimit_of_le early
      rw [numberOf_eq_ok isRow denotes (by omega)]
      simp only [bind, Except.bind, accepted, declared_of_get? found,
        stateOf_eq_of_means canStand means]
      cases meant <;> rfl

theorem observe_congr {other : StateField}
    (same : ∀ lifeline, diagram.lifelines.get? name = some lifeline →
      stateOf lifeline name other = stateOf lifeline name field) :
    diagram.observe token name other = diagram.observe token name field := by
  unfold observe
  congr 1
  funext time
  congr 1
  funext _
  cases found : diagram.lifelines.get? name with
  | none => simp only [declared, found]; rfl
  | some lifeline =>
      rw [declared_of_get? found]
      change stateOf lifeline name other >>= _ = stateOf lifeline name field >>= _
      rw [same lifeline found]

/-- The fields of a tick statement mean a tick or a fault, whatever they are. -/
theorem exists_resolves (diagram : Diagram) (token name : String) (field : StateField) :
    ∃ result, diagram.Resolves token name field result := by
  by_cases digits : ∀ c ∈ token.toList, c.isDigit = true
  · have denotes : Numeral.Denotes token.toList _ := ⟨digits, rfl⟩
    generalize Nat.ofDigitChars 10 token.toList 0 = time at denotes
    rcases Nat.lt_or_ge time (2 ^ 64) with within | great
    · rcases Nat.lt_or_ge 100000 time with late | early
      · exact ⟨_, .tooLate denotes within late⟩
      · by_cases known : fieldMarkup name ∈ diagram.lifelines.keys
        · obtain ⟨lifeline, found⟩ := Table.exists_get? known
          obtain ⟨meant, means⟩ := lifeline.exists_means (fieldMarkup name) field
          exact ⟨_, .declared denotes early found means⟩
        · exact ⟨_, .undeclared denotes early known⟩
    · exact ⟨_, .tooLong denotes great⟩
  · push Not at digits
    obtain ⟨c, membership, foreign⟩ := digits
    exact ⟨_, .foreignDigit membership (Bool.eq_false_iff.mpr foreign)⟩

/-- They mean one thing only, as carrying the statement out has one result. -/
theorem Resolves.unique (isRow : IsRow isDigit token.toList) (canStand : field.CanStand)
    {other : Except Fault Tick} (resolves : diagram.Resolves token name field result)
    (otherwise : diagram.Resolves token name field other) : result = other := by
  have same := (observe_eq_of_resolves isRow canStand resolves).symm.trans
    (observe_eq_of_resolves isRow canStand otherwise)
  cases result <;> cases other <;> simp only [Except.map, Except.ok.injEq, Except.error.injEq,
    reduceCtorEq] at same
  · rw [same]
  · rw [withTick_injective diagram same]

end Diagram

namespace Pattern

theorem match_stateField_iff {line : List Char} {fields : Fields} :
    Match (.either (quoted 3) (.field 4 (row fun c => !isBlank c && c ≠ '"'))) line fields ↔
      ∃ field : StateField, field.CanStand ∧ line = Printer.stateText field ∧
        fields = [field.field] := by
  rw [match_either_iff, match_quoted_iff, match_field_iff]
  simp only [match_row_iff]
  constructor
  · rintro (⟨raw, isRaw, rfl, rfl⟩ | ⟨_, ⟨nonempty, inside, rfl⟩, rfl⟩)
    · refine ⟨.quoted (String.ofList raw), ?_, ?_, ?_⟩ <;>
        simp [StateField.CanStand, Printer.stateText, Printer.quotedText, StateField.field, isRaw]
    · refine ⟨.bare (String.ofList line), ?_, ?_, ?_⟩
      · rw [StateField.CanStand, String.toList_ofList]
        exact ⟨nonempty, inside⟩
      · simp [Printer.stateText]
      · simp [StateField.field]
  · rintro ⟨_ | _, canStand, rfl, rfl⟩
    · exact .inl ⟨_, canStand, rfl, rfl⟩
    · exact .inr ⟨_, ⟨canStand.1, canStand.2, rfl⟩, rfl⟩

def tickFront : List Pattern :=
  [.text ['T'], digits 1, row isBlank, quoted 2, row isBlank]

/-- The state stands at the end of a tick line, and nothing in front depends on it. -/
theorem match_tick_iff {line : List Char} {token name : String} {field : StateField} :
    Match StatementKind.tick.pattern line (Statement.tick token name field).fields ↔
      ∃ front, Match (sequence tickFront) front [(1, token.toList), (2, name.toList)] ∧
        field.CanStand ∧ line = front ++ Printer.stateText field := by
  change Match (sequence (tickFront ++ [_])) _ _ ↔ _
  rw [match_sequence_append]
  constructor
  · rintro ⟨front, _, before, _, first, last, rfl, same⟩
    obtain ⟨spelling, _, own, _, matched, done, rfl, rfl⟩ := match_sequence_cons.mp last
    obtain ⟨rfl, rfl⟩ := match_sequence_nil.mp done
    obtain ⟨other, canStand, rfl, rfl⟩ := match_stateField_iff.mp matched
    have split : [(1, token.toList), (2, name.toList)] ++ [field.field] =
        before ++ [other.field] := by simpa [Statement.fields] using same
    obtain ⟨rfl, sameField⟩ := List.append_inj' split rfl
    obtain rfl := StateField.field_injective (List.singleton_inj.mp sameField)
    exact ⟨front, first, canStand, by rw [List.append_nil]⟩
  · rintro ⟨front, first, canStand, rfl⟩
    refine ⟨front, _, _, _, first, match_sequence_singleton ?_, rfl, rfl⟩
    exact match_stateField_iff.mpr ⟨field, canStand, rfl, rfl⟩

theorem isRow_of_match_tick {line : List Char} {token name : String} {field : StateField}
    (matched : Match StatementKind.tick.pattern line (Statement.tick token name field).fields) :
    IsRow isDigit token.toList := by
  obtain ⟨front, first, -⟩ := match_tick_iff.mp matched
  obtain ⟨_, _, _, _, letter, others, -, same⟩ := match_sequence_cons.mp first
  obtain ⟨time, _, _, _, number, -, -, rfl⟩ := match_sequence_cons.mp others
  obtain ⟨-, rfl⟩ := match_text_iff.mp letter
  obtain ⟨_, matchedRow, rfl⟩ := match_field_iff.mp number
  obtain ⟨nonempty, inside, -⟩ := match_row_iff.mp matchedRow
  obtain rfl : token.toList = time := (Prod.mk.inj (List.cons.inj same).1).2
  exact ⟨nonempty, inside⟩

end Pattern

namespace Builder

/-- A line could as well have been written with another statement: that statement has a line, and
taking in any line of it instead comes to the same. -/
def MayReplace (mode : Mode) (draft : Draft) (line : Source.Line) (statement : Statement) : Prop :=
  (∃ text : String, Match statement.kind.pattern text.toList statement.fields) ∧
    ∀ text : String, Match statement.kind.pattern text.toList statement.fields →
      answer (takeIn mode ⟨line.number, text⟩) draft = answer (takeIn mode line) draft

/-- What becomes of a line whose fields mean a tick or a fault. -/
def observed (draft : Draft) (number : Nat) :
    Except Fault Tick → Except LineFault (Option StatementKind) × Draft
  | .ok tick => (.ok (some .tick), { draft with diagram := draft.diagram.withTick tick })
  | .error fault => (.error ⟨number, fault⟩, draft)

variable {mode : Mode} {draft : Draft} {line : Source.Line}

theorem answer_of_match (statement : Statement)
    (matched : Match statement.kind.pattern line.text.toList statement.fields) :
    answer (takeIn mode line) draft =
      match draft.diagram.apply statement with
      | .ok diagram => (.ok (some statement.kind), { draft with diagram })
      | .error fault => (.error ⟨line.number, fault⟩, draft) := by
  have read : Statement.read? line.text = some statement :=
    Statement.read?_eq_some_iff_readKind?.mpr
      (Statement.readKind?_kind_eq_some_iff.mpr matched)
  simp only [answer_takeIn, Draft.step, read]
  cases draft.diagram.apply statement <;> rfl

variable {token name : String} {field : StateField}

theorem answer_eq_observed
    (matched : Match StatementKind.tick.pattern line.text.toList
      (Statement.tick token name field).fields)
    {result : Except Fault Tick} (resolves : draft.diagram.Resolves token name field result) :
    answer (takeIn mode line) draft = observed draft line.number result := by
  obtain ⟨_, _, canStand, _⟩ := match_tick_iff.mp matched
  have applied : draft.diagram.apply (.tick token name field) =
      result.map draft.diagram.withTick :=
    Diagram.observe_eq_of_resolves (isRow_of_match_tick matched) canStand resolves
  rw [answer_of_match (.tick token name field) matched, applied]
  cases result <;> rfl

/-- A state can be written in any way that means the same for the lifeline. -/
theorem mayReplace_of_stateOf
    (matched : Match StatementKind.tick.pattern line.text.toList
      (Statement.tick token name field).fields)
    {other : StateField} (canStand : other.CanStand)
    (same : ∀ lifeline, draft.diagram.lifelines.get? (fieldMarkup name) = some lifeline →
      Diagram.stateOf lifeline (fieldMarkup name) other =
        Diagram.stateOf lifeline (fieldMarkup name) field) :
    MayReplace mode draft line (.tick token name other) := by
  constructor
  · obtain ⟨front, first, -, -⟩ := match_tick_iff.mp matched
    refine ⟨String.ofList (front ++ Printer.stateText other), match_tick_iff.mpr ?_⟩
    exact ⟨front, first, canStand, String.toList_ofList⟩
  · intro text matchedOther
    have applied : draft.diagram.apply (.tick token name other) =
        draft.diagram.apply (.tick token name field) := Diagram.observe_congr same
    rw [answer_of_match (.tick token name field) matched,
      answer_of_match (.tick token name other) matchedOther, applied]
    rfl

end Builder

open Builder

/-- Tick statements resolve exactly. In whatever state a builder is, a line with the form of a tick
statement comes to the one result that its fields mean: the tick is added, or the fault is reported
and nothing changes. The label of a state and the least index with that label may stand for each
other, however they are written. What is bare and no index may as well stand between quotes with its
backslashes doubled. -/
theorem tick_statements_resolve (mode : Mode) (config : Config) (earlier : List Source.Line)
    (line : Source.Line) {token name : String} {field : StateField} {draft : Draft}
    (reached : feed mode (Draft.blank config) earlier = draft)
    (matched : Match StatementKind.tick.pattern line.text.toList
      (Statement.tick token name field).fields) :
    (∃! result, draft.diagram.Resolves token name field result) ∧
    (∀ result, draft.diagram.Resolves token name field result →
      answer (takeIn mode line) draft = observed draft line.number result) ∧
    (∀ lifeline label index,
      draft.diagram.lifelines.get? (fieldMarkup name) = some lifeline →
      IsLeast {slot | lifeline.states.get? slot = some label} index →
      field.Gives label index → ∀ other : StateField, other.CanStand → other.Gives label index →
      MayReplace mode draft line (.tick token name other)) ∧
    (∀ bare, field = .bare bare → (∃ c ∈ bare.toList, c.isDigit = false) →
      MayReplace mode draft line (.tick token name
        (.quoted (String.ofList (Quoted.doubleBackslashes bare.toList))))) := by
  have isRow := isRow_of_match_tick matched
  obtain ⟨_, _, canStand, _⟩ := match_tick_iff.mp matched
  refine ⟨?_, fun result => answer_eq_observed matched, ?_, ?_⟩
  · obtain ⟨result, resolves⟩ := draft.diagram.exists_resolves token name field
    exact ⟨result, resolves, fun other otherwise => otherwise.unique isRow canStand resolves⟩
  · intro lifeline label index found least gives other canStandOther givesOther
    have wellBuilt : draft.diagram.WellBuilt :=
      reached ▸ wellBuilt_feed mode earlier (Diagram.wellBuilt_blank config)
    have within : index < 2 ^ 64 := by
      have bound := (wellBuilt.lifelines _ (Table.mem_of_get? found)).size
      obtain ⟨slot, -⟩ := Catalog.get?_eq_some_iff.mp least.1
      exact (slot.trans_le bound).trans (by decide)
    refine mayReplace_of_stateOf matched canStandOther fun declared here => ?_
    obtain rfl : lifeline = declared := Option.some.inj (found.symm.trans here)
    rw [Diagram.stateOf_of_gives canStandOther least within givesOther,
      Diagram.stateOf_of_gives canStand least within gives]
  · rintro bare rfl ⟨c, membership, foreign⟩
    have quoteless : '"' ∉ bare.toList := fun quote => by simpa using canStand.2 _ quote
    have escaped : String.ofList (Quoted.doubleBackslashes bare.toList) = rawField bare :=
      congrArg String.ofList (Quoted.doubleBackslashes_eq_escape quoteless)
    rw [escaped]
    refine mayReplace_of_stateOf matched (StateField.canStand_rawField bare) fun lifeline _ => ?_
    have quoted : (StateField.quoted (rawField bare)).label? = some (plainMarkup bare) :=
      congrArg some (fieldMarkup_rawField bare)
    have plain : (StateField.bare bare).label? = some (plainMarkup bare) := by
      refine if_neg fun digits => ?_
      rw [List.all_eq_true.mp digits c membership] at foreign
      exact Bool.noConfusion foreign
    rw [Diagram.stateOf_of_label? quoted, Diagram.stateOf_of_label? plain]

/-- Lines after which a pump has holes among its states, a label that two states have, a label that
looks like an index, and a label with a backslash. -/
def pumpLines : List Source.Line :=
  [⟨1, "lifeline \"Pump\""⟩, ⟨2, "state \"Pump\" \"Idle\" 3"⟩, ⟨3, "state \"Pump\" \"Idle\" 1"⟩,
    ⟨4, "state \"Pump\" \"7\" 2"⟩, ⟨5, "state \"Pump\" \"C:\\\\bin\" 5"⟩]

def pumpDraft : Draft :=
  feed .strict (Draft.blank .standard) pumpLines

theorem pumpDraft_resolves :
    answer (takeIn .strict ⟨6, "T4 \"Pump\" Idle"⟩) pumpDraft =
      observed pumpDraft 6 (.ok ⟨4, "Pump", 1⟩) ∧
    MayReplace .strict pumpDraft ⟨6, "T4 \"Pump\" Idle"⟩ (.tick "4" "Pump" (.bare "1")) ∧
    answer (takeIn .strict ⟨7, "T4 \"Pump\" 7"⟩) pumpDraft =
      observed pumpDraft 7 (.ok ⟨4, "Pump", 7⟩) ∧
    MayReplace .strict pumpDraft ⟨8, "T4 \"Pump\" C:\\bin"⟩
      (.tick "4" "Pump" (.quoted "C:\\\\bin")) := by
  have found : pumpDraft.diagram.lifelines.get? (fieldMarkup "Pump") = some ⟨"Pump", .normal,
      ⟨[none, some "Idle", some "7", some "Idle", none, some "C:\\bin"]⟩⟩ := by decide +kernel
  have time : Numeral.Denotes "4".toList 4 := by decide
  have least : IsLeast {slot | Catalog.get? ⟨[none, some "Idle", some "7", some "Idle", none,
      some "C:\\bin"]⟩ slot = some "Idle"} 1 := Catalog.position?_eq_some_iff.mp (by decide)
  have idle : Match StatementKind.tick.pattern "T4 \"Pump\" Idle".toList
      (Statement.tick "4" "Pump" (.bare "Idle")).fields :=
    (Statement.match_of_readKind? (by decide +kernel)).2
  have seven : Match StatementKind.tick.pattern "T4 \"Pump\" 7".toList
      (Statement.tick "4" "Pump" (.bare "7")).fields :=
    (Statement.match_of_readKind? (by decide +kernel)).2
  have bin : Match StatementKind.tick.pattern "T4 \"Pump\" C:\\bin".toList
      (Statement.tick "4" "Pump" (.bare "C:\\bin")).fields :=
    (Statement.match_of_readKind? (by decide +kernel)).2
  obtain ⟨-, answersIdle, replacesIdle, -⟩ := tick_statements_resolve .strict .standard pumpLines
    ⟨6, "T4 \"Pump\" Idle"⟩ (rfl : _ = pumpDraft) idle
  obtain ⟨-, answersSeven, -⟩ := tick_statements_resolve .strict .standard pumpLines
    ⟨7, "T4 \"Pump\" 7"⟩ (rfl : _ = pumpDraft) seven
  obtain ⟨-, -, -, replacesBin⟩ := tick_statements_resolve .strict .standard pumpLines
    ⟨8, "T4 \"Pump\" C:\\bin"⟩ (rfl : _ = pumpDraft) bin
  refine ⟨?_, ?_, ?_, ?_⟩
  · exact answersIdle _ (.declared time (by decide) found (.labelled (by decide) least))
  · exact replacesIdle _ _ _ found least (.inl (by decide)) (.bare "1")
      ⟨by decide, List.forall_mem_singleton.mpr (by decide)⟩ (.inr ⟨"1", rfl, by decide⟩)
  · exact answersSeven _ (.declared time (by decide) found (.literal (by decide) (by decide)))
  · have doubled : String.ofList (Quoted.doubleBackslashes "C:\\bin".toList) = "C:\\\\bin" := by
      decide
    exact doubled ▸ replacesBin _ rfl ⟨'C', by decide, by decide⟩

end Chronogram
