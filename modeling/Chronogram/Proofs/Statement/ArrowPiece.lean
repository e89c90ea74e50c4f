import Chronogram.Proofs.Statement.Piece

/-!
Reading the pieces of arrows.

The optional pieces of an arrow start with a colon or a blank. What follows a slot or a position
starts with neither a digit nor a colon in front of one, so these pieces are left out exactly where
they are not there.
-/

namespace Chronogram.Reader

open Text Pattern

section Numbers

variable {number : Nat} {line front rest : List Char} {fields : Fields}

def optionalField (number : Nat) (token : Option String) : Fields :=
  token.toList.map fun digits => (number, digits.toList)

theorem match_slot_iff :
    Match (Pattern.slot number) line fields ↔
      line = [] ∧ fields = [] ∨
        ∃ taken, taken ≠ [] ∧ (∀ c ∈ taken, isDigit c = true) ∧ line = ':' :: taken ∧
          fields = [(number, taken)] := by
  simp only [Pattern.slot, digits, match_optional_iff, match_sequence_cons, match_sequence_nil,
    match_text_iff, match_field_iff, match_row_iff]
  constructor
  · rintro (absent | ⟨_, _, _, _, ⟨rfl, rfl⟩, ⟨taken, _, _, _, ⟨_, ⟨nonempty, inside, rfl⟩, rfl⟩,
      ⟨rfl, rfl⟩, rfl, rfl⟩, rfl, rfl⟩)
    · exact .inl absent
    · exact .inr ⟨taken, nonempty, inside, by simp, by simp⟩
  · rintro (absent | ⟨taken, nonempty, inside, rfl, rfl⟩)
    · exact .inl absent
    · exact .inr ⟨[':'], taken, [], _, ⟨rfl, rfl⟩, ⟨taken, [], _, [],
        ⟨[], ⟨nonempty, inside, rfl⟩, rfl⟩, ⟨rfl, rfl⟩, by simp, rfl⟩, rfl, rfl⟩

theorem match_position_iff :
    Match (Pattern.position number) line fields ↔
      Match (Pattern.slot number) line fields ∨
        ∃ taken, taken ≠ [] ∧ (∀ c ∈ taken, isDigit c = true) ∧ line = ':' :: '-' :: taken ∧
          fields = [(number, '-' :: taken)] := by
  simp only [match_slot_iff, Pattern.position, match_optional_iff, match_sequence_cons,
    match_sequence_nil, match_text_iff, match_field_iff, match_seq_iff, match_row_iff]
  constructor
  · rintro (absent | ⟨_, _, _, _, ⟨rfl, rfl⟩, ⟨_, _, _, _, ⟨_, ⟨sign, taken, _, _, optionalSign,
      ⟨nonempty, inside, rfl⟩, rfl, rfl⟩, rfl⟩, ⟨rfl, rfl⟩, rfl, rfl⟩, rfl, rfl⟩)
    · exact .inl (.inl absent)
    · rcases optionalSign with ⟨rfl, rfl⟩ | ⟨rfl, rfl⟩
      · exact .inl (.inr ⟨taken, nonempty, inside, by simp, by simp⟩)
      · exact .inr ⟨taken, nonempty, inside, by simp, by simp⟩
  · rintro ((absent | ⟨taken, nonempty, inside, rfl, rfl⟩) | ⟨taken, nonempty, inside, rfl, rfl⟩)
    · exact .inl absent
    · exact .inr ⟨[':'], taken, [], _, ⟨rfl, rfl⟩, ⟨taken, [], _, [], ⟨[], ⟨[], taken, [], [],
        .inl ⟨rfl, rfl⟩, ⟨nonempty, inside, rfl⟩, rfl, rfl⟩, rfl⟩, ⟨rfl, rfl⟩, by simp, rfl⟩,
        rfl, rfl⟩
    · exact .inr ⟨[':'], '-' :: taken, [], _, ⟨rfl, rfl⟩, ⟨'-' :: taken, [], _, [],
        ⟨[], ⟨['-'], taken, [], [], .inr ⟨rfl, rfl⟩, ⟨nonempty, inside, rfl⟩, rfl, rfl⟩, rfl⟩,
        ⟨rfl, rfl⟩, by simp, rfl⟩, rfl, rfl⟩

theorem digits?_append {taken : List Char} (nonempty : taken ≠ [])
    (inside : ∀ c ∈ taken, isDigit c = true) (outside : StartsOutside isDigit rest) :
    digits? (taken ++ rest) = some (String.ofList taken, rest) :=
  row?_eq_some_iff.mpr (by simpa using ⟨nonempty, inside, outside⟩)

theorem slot_sound (number : Nat) (line : List Char) :
    ∃ front, Match (Pattern.slot number) front (optionalField number (slot line).1) ∧
      line = front ++ (slot line).2 := by
  have absent : ∃ front, Match (Pattern.slot number) front (optionalField number none) ∧
      line = front ++ line := ⟨[], .absent, rfl⟩
  unfold slot
  split
  next after =>
    split
    next digits rest found =>
      obtain ⟨nonempty, inside, -, rfl⟩ := row?_eq_some_iff.mp found
      exact ⟨':' :: digits.toList, match_slot_iff.mpr (.inr ⟨_, nonempty, inside, rfl, rfl⟩), rfl⟩
    next => exact absent
  next => exact absent

theorem slot_complete (matched : Match (Pattern.slot number) front fields)
    (outside : StartsOutside isDigit rest) (absent : slot rest = (none, rest)) :
    ∃ token, slot (front ++ rest) = (token, rest) ∧ optionalField number token = fields := by
  rcases match_slot_iff.mp matched with ⟨rfl, rfl⟩ | ⟨taken, nonempty, inside, rfl, rfl⟩
  · exact ⟨none, absent, rfl⟩
  · have found := digits?_append nonempty inside outside
    exact ⟨some (String.ofList taken), by simp [slot, found], by simp [optionalField]⟩

theorem isDigit_minus : isDigit '-' = false := by decide

theorem slot_minus (line : List Char) : slot (':' :: '-' :: line) = (none, ':' :: '-' :: line) := by
  simp [slot, digits?, row?, isDigit_minus]

theorem position_sound (number : Nat) (line : List Char) :
    ∃ front, Match (Pattern.position number) front (optionalField number (position line).1) ∧
      line = front ++ (position line).2 := by
  unfold position
  split
  next after =>
    split
    next digits rest found =>
      obtain ⟨nonempty, inside, -, rfl⟩ := row?_eq_some_iff.mp found
      refine ⟨':' :: '-' :: digits.toList, match_position_iff.mpr (.inr ?_), rfl⟩
      exact ⟨_, nonempty, inside, rfl, by simp [optionalField]⟩
    next => exact ⟨[], .absent, rfl⟩
  next =>
    obtain ⟨front, matched, split⟩ := slot_sound number line
    exact ⟨front, match_position_iff.mpr (.inl matched), split⟩

theorem position_eq_slot (signless : ∀ after, line ≠ ':' :: '-' :: after) :
    position line = slot line := by
  unfold position
  split
  next after => exact absurd rfl (signless after)
  next => rfl

theorem slot_of_position (absent : position line = (none, line)) : slot line = (none, line) := by
  by_cases signed : ∃ after, line = ':' :: '-' :: after
  · obtain ⟨after, rfl⟩ := signed
    exact slot_minus after
  · rw [← position_eq_slot (not_exists.mp signed)]
    exact absent

theorem position_complete (matched : Match (Pattern.position number) front fields)
    (outside : StartsOutside isDigit rest) (absent : position rest = (none, rest)) :
    ∃ token, position (front ++ rest) = (token, rest) ∧ optionalField number token = fields := by
  rcases match_position_iff.mp matched with unsigned | ⟨taken, nonempty, inside, rfl, rfl⟩
  · rcases match_slot_iff.mp unsigned with ⟨rfl, rfl⟩ | ⟨taken, nonempty, inside, rfl, rfl⟩
    · exact ⟨none, absent, rfl⟩
    · rw [position_eq_slot]
      · exact slot_complete unsigned outside (slot_of_position absent)
      · intro after equality
        cases taken with
        | nil => exact nonempty rfl
        | cons c taken =>
            obtain ⟨rfl, -⟩ : c = '-' ∧ taken ++ rest = after := by simpa using equality
            simp [isDigit_minus] at inside
  · have found := digits?_append nonempty inside outside
    exact ⟨some ("-" ++ String.ofList taken), by simp [position, found], by simp [optionalField]⟩

end Numbers

/-- No slot can be read in front of some pieces. -/
def Unslotted (pieces : List Pattern) : Prop :=
  ∀ line fields, Match (sequence pieces) line fields → slot line = (none, line)

namespace Reads

variable {kind : StatementKind} {before : Fields} {pieces : List Pattern} {line : List Char}

/-- Skip blanks in front of something that is not blank. -/
theorem optionalBlanks (read : List Char → Option Statement) (avoids : Avoids isBlank pieces)
    (next : ∀ rest, Reads kind before pieces rest (read rest)) :
    Reads kind before (.many (.one isBlank) :: pieces) line (read (trimStart line)) := by
  refine andThen (some (trimStart line)) (fun _ => []) id ?_ ?_ (by simpa using next)
  · rintro _ ⟨⟩
    exact ⟨line.takeWhile isBlank,
      match_many_one_iff.mpr ⟨fun _ => List.mem_takeWhile_imp, rfl⟩,
      (List.takeWhile_append_dropWhile).symm⟩
  · rintro front after fields others matched following rfl
    obtain ⟨inside, rfl⟩ := match_many_one_iff.mp matched
    exact ⟨after, congrArg some (dropWhile_row inside (avoids _ _ following)), rfl, rfl⟩

theorem slot {number : Nat} (read : Option String × List Char → Option Statement)
    (avoids : Avoids isDigit pieces) (unslotted : Unslotted pieces)
    (next : ∀ token rest,
      Reads kind (before ++ optionalField number token) pieces rest (read (token, rest))) :
    Reads kind before (Pattern.slot number :: pieces) line (read (Reader.slot line)) := by
  refine andThen (some (Reader.slot line)) (fun value => optionalField number value.1) Prod.snd
    ?_ ?_ fun (token, rest) => next token rest
  · rintro _ ⟨⟩
    exact slot_sound number line
  · rintro front after fields others matched following rfl
    obtain ⟨token, found, sameFields⟩ :=
      slot_complete matched (avoids _ _ following) (unslotted _ _ following)
    exact ⟨(token, after), congrArg some found, sameFields, rfl⟩

theorem head {number : Nat} {read : ArrowStyle × List Char → Option Statement}
    (next : ∀ style rest,
      Reads kind (before ++ [(number, style.field)]) pieces rest (read (style, rest))) :
    Reads kind before (Pattern.head number :: pieces) line (head? line >>= read) := by
  refine andThen _ (fun value => [(number, value.1.field)]) Prod.snd ?_ ?_
    fun (style, rest) => next style rest
  · rintro ⟨style, rest⟩ found
    unfold head? at found
    split at found
    next =>
      obtain ⟨rfl, rfl⟩ := Prod.mk.inj (Option.some.inj found)
      exact ⟨['-', '>'], .field (.left .text), rfl⟩
    next =>
      obtain ⟨rfl, rfl⟩ := Prod.mk.inj (Option.some.inj found)
      exact ⟨['=', '>'], .field (.right .text), rfl⟩
    next => simp at found
  · rintro front after fields others matched - rfl
    obtain ⟨_, chosen, rfl⟩ := match_field_iff.mp matched
    rcases match_either_iff.mp chosen with solid | dashed
    · obtain ⟨rfl, rfl⟩ := match_text_iff.mp solid
      exact ⟨(.solid, after), rfl, rfl, rfl⟩
    · obtain ⟨rfl, rfl⟩ := match_text_iff.mp dashed
      exact ⟨(.dashed, after), rfl, rfl, rfl⟩

theorem end?_bind (line : List Char) (read : EndFields × List Char → Option Statement) :
    (end? line >>= read) =
      tick? line >>= fun (tick, rest) => exactly? [':'] rest >>= fun rest =>
        quoted? rest >>= fun (lifeline, rest) =>
          (fun (slot, rest) => read (⟨tick, lifeline, slot⟩, rest)) (Reader.slot rest) := by
  simp only [end?, Option.bind_eq_bind, Option.bind_assoc, Option.bind_some]

theorem arrowEnd {number : Nat} {read : EndFields × List Char → Option Statement}
    (avoids : Avoids isDigit pieces) (unslotted : Unslotted pieces)
    (next : ∀ fields rest,
      Reads kind (before ++ fields.fields number) pieces rest (read (fields, rest))) :
    Reads kind before (Pattern.arrowEnd number ++ pieces) line (end? line >>= read) := by
  rw [end?_bind]
  refine tick (avoids_text (by decide)) fun digits rest => ?_
  refine text fun rest => ?_
  refine quoted fun lifeline rest => ?_
  refine slot (fun (slot, rest) => read (⟨digits, lifeline, slot⟩, rest)) avoids unslotted
    fun token rest => ?_
  simpa [EndFields.fields, optionalField] using next ⟨digits, lifeline, token⟩ rest

end Reads

section Labels

variable {number : Nat} {line rest : List Char} {fields : Fields}

theorem match_label_iff :
    Match (Pattern.label number) line fields ↔
      line = [] ∧ fields = [] ∨
        ∃ blanks raw rest others, blanks ≠ [] ∧ (∀ c ∈ blanks, isBlank c = true) ∧
          Quoted.Raw raw ∧ Match (Pattern.position (number + 1)) rest others ∧
          line = blanks ++ '"' :: (raw ++ '"' :: rest) ∧ fields = (number, raw) :: others := by
  simp only [Pattern.label, match_optional_iff, match_sequence_cons, match_sequence_nil,
    match_row_iff, match_quoted_iff]
  constructor
  · rintro (absent | ⟨blanks, _, _, _, ⟨nonempty, inside, rfl⟩, ⟨_, _, _, _,
      ⟨raw, isRaw, rfl, rfl⟩, ⟨rest, _, others, _, matched, ⟨rfl, rfl⟩, rfl, rfl⟩, rfl, rfl⟩,
      rfl, rfl⟩)
    · exact .inl absent
    · exact .inr ⟨blanks, raw, rest, others, nonempty, inside, isRaw, matched, by simp, by simp⟩
  · rintro (absent | ⟨blanks, raw, rest, others, nonempty, inside, isRaw, matched, rfl, rfl⟩)
    · exact .inl absent
    · exact .inr ⟨blanks, _, [], _, ⟨nonempty, inside, rfl⟩, ⟨_, rest, _, others,
        ⟨raw, isRaw, rfl, rfl⟩, ⟨rest, [], others, [], matched, ⟨rfl, rfl⟩, by simp, by simp⟩,
        rfl, rfl⟩, by simp, rfl⟩

theorem match_side_iff :
    Match (Pattern.side number) line fields ↔
      ∃ side : Option LabelSide, line = (side.toList.flatMap fun side => ':' :: side.field) ∧
        fields = side.toList.map fun side => (number, side.field) := by
  simp only [Pattern.side, match_optional_iff, match_sequence_cons, match_sequence_nil,
    match_text_iff, match_field_iff, match_either_iff]
  constructor
  · rintro (⟨rfl, rfl⟩ | ⟨_, _, _, _, ⟨rfl, rfl⟩, ⟨_, _, _, _, ⟨_, chosen, rfl⟩, ⟨rfl, rfl⟩,
      rfl, rfl⟩, rfl, rfl⟩)
    · exact ⟨none, rfl, rfl⟩
    · rcases chosen with ⟨rfl, rfl⟩ | ⟨rfl, rfl⟩
      · exact ⟨some .right, rfl, rfl⟩
      · exact ⟨some .left, rfl, rfl⟩
  · rintro ⟨_ | side, rfl, rfl⟩
    · exact .inl ⟨rfl, rfl⟩
    · refine .inr ⟨[':'], side.field, [], _, ⟨rfl, rfl⟩, ⟨side.field, [], _, [],
        ⟨[], ?_, rfl⟩, ⟨rfl, rfl⟩, by simp, rfl⟩, by simp, by simp⟩
      cases side with
      | left => exact .inr ⟨rfl, rfl⟩
      | right => exact .inl ⟨rfl, rfl⟩

/-- No position can be read in front of some pieces. -/
def Unpositioned (pieces : List Pattern) : Prop :=
  ∀ line fields, Match (sequence pieces) line fields → position line = (none, line)

theorem unpositioned_side (number : Nat) : Unpositioned [Pattern.side number] := by
  intro line fields matched
  obtain ⟨_, _, _, _, last, others, rfl, rfl⟩ := match_sequence_cons.mp matched
  obtain ⟨rfl, rfl⟩ := match_sequence_nil.mp others
  obtain ⟨side, rfl, rfl⟩ := match_side_iff.mp last
  rcases side with _ | _ | _ <;> decide

theorem avoids_side {belongs : Char → Bool} (number : Nat) (outside : belongs ':' = false) :
    Avoids belongs [Pattern.side number] :=
  avoids_optional (avoids_text outside) avoids_nil

theorem isBlank_quote : StartsOutside isBlank ('"' :: line) := by
  rw [startsOutside_cons]
  decide

theorem blanks?_eq_none (outside : StartsOutside isBlank line) : blanks? line = none := by
  cases line with
  | nil => rfl
  | cons c rest => simpa [blanks?] using outside

theorem label?_of_no_blanks (found : blanks? line = none) : label? line = some (none, line) := by
  simp [label?, found]

theorem label?_of_blanks (found : blanks? line = some rest) :
    label? line = (quoted? rest).map fun (raw, rest) =>
      (some ⟨raw, (position rest).1⟩, (position rest).2) := by
  simp only [label?, found]
  cases quoted? rest <;> rfl

namespace Reads

variable {kind : StatementKind} {before : Fields} {pieces : List Pattern}

theorem label {read : Option LabelFields × List Char → Option Statement}
    (avoidsBlank : Avoids isBlank pieces) (avoidsDigit : Avoids isDigit pieces)
    (unpositioned : Unpositioned pieces)
    (next : ∀ label rest,
      Reads kind (before ++ label.toList.flatMap fun label => label.fields number) pieces rest
        (read (label, rest))) :
    Reads kind before (Pattern.label number :: pieces) line (label? line >>= read) := by
  refine andThen _ (fun value => value.1.toList.flatMap fun label => label.fields number) Prod.snd
    ?_ ?_ fun (label, rest) => next label rest
  · rintro ⟨label, rest⟩ found
    cases blanksFound : blanks? line with
    | none =>
        rw [label?_of_no_blanks blanksFound] at found
        obtain ⟨rfl, rfl⟩ := Prod.mk.inj (Option.some.inj found)
        exact ⟨[], .absent, rfl⟩
    | some after =>
        rw [label?_of_blanks blanksFound] at found
        obtain ⟨⟨raw, afterText⟩, textFound, equality⟩ := Option.map_eq_some_iff.mp found
        obtain ⟨rfl, rfl⟩ := Prod.mk.inj equality
        obtain ⟨blanks, nonempty, inside, -, rfl⟩ := blanks?_eq_some_iff.mp blanksFound
        obtain ⟨isRaw, rfl⟩ := quoted?_eq_some_iff.mp textFound
        obtain ⟨front, matched, split⟩ := position_sound (number + 1) afterText
        refine ⟨blanks ++ '"' :: (raw.toList ++ '"' :: front), ?_, by simpa using split⟩
        exact match_label_iff.mpr (.inr ⟨blanks, raw.toList, front, _, nonempty, inside, isRaw,
          matched, rfl, by simp [LabelFields.fields, optionalField]⟩)
  · rintro front after fields others matched following rfl
    rcases match_label_iff.mp matched with ⟨rfl, rfl⟩ |
      ⟨blanks, raw, rest, own, nonempty, inside, isRaw, positioned, rfl, rfl⟩
    · have noBlanks : blanks? ([] ++ after) = none := blanks?_eq_none (avoidsBlank _ _ following)
      exact ⟨(none, after), label?_of_no_blanks noBlanks, rfl, rfl⟩
    · have blanksFound : blanks? (blanks ++ '"' :: (raw ++ '"' :: rest) ++ after) =
          some ('"' :: (raw ++ '"' :: (rest ++ after))) :=
        blanks?_eq_some_iff.mpr ⟨blanks, nonempty, inside, isBlank_quote, by simp⟩
      have textFound : quoted? ('"' :: (raw ++ '"' :: (rest ++ after))) =
          some (String.ofList raw, rest ++ after) :=
        quoted?_eq_some_iff.mpr (by simpa using isRaw)
      obtain ⟨token, positionFound, sameFields⟩ := position_complete positioned
        (avoidsDigit _ _ following) (unpositioned _ _ following)
      refine ⟨(some ⟨String.ofList raw, token⟩, after), ?_, ?_, rfl⟩
      · rw [label?_of_blanks blanksFound, textFound]
        simp [positionFound]
      · simpa [LabelFields.fields, optionalField] using sameFields

theorem side {line : List Char} {statement : Option LabelSide → Statement}
    (sameKind : ∀ side, (statement side).kind = kind)
    (sameFields : ∀ side, (statement side).fields =
      before ++ side.toList.map fun side => (number, side.field)) :
    Reads kind before [Pattern.side number] line
      (side? line >>= fun side => some (statement side)) := by
  constructor
  · intro read found
    obtain ⟨side, sideFound, equality⟩ := Option.bind_eq_some_iff.mp found
    obtain rfl := Option.some.inj equality
    refine ⟨sameKind side, _, ?_, sameFields side⟩
    refine match_sequence_cons.mpr ⟨line, [], _, [], match_side_iff.mpr ⟨side, ?_, rfl⟩,
      match_sequence_nil.mpr ⟨rfl, rfl⟩, by simp, by simp⟩
    unfold side? at sideFound
    split at sideFound
    next => cases sideFound; rfl
    next => cases sideFound; rfl
    next => cases sideFound; rfl
    next => simp at sideFound
  · intro fields matched
    obtain ⟨_, _, _, _, last, others, rfl, rfl⟩ := match_sequence_cons.mp matched
    obtain ⟨rfl, rfl⟩ := match_sequence_nil.mp others
    obtain ⟨side, rfl, rfl⟩ := match_side_iff.mp last
    refine ⟨statement side, ?_, by simpa using sameFields side⟩
    rcases side with _ | _ | _ <;> rfl

end Reads

end Labels

end Chronogram.Reader
