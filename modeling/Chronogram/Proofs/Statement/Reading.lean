import Chronogram.Proofs.Statement.ArrowPiece

/-!
Reading whole lines.

Each reader of a kind agrees with the pattern of that kind: it reads exactly the lines that have the
form, and the statement that it gives holds the fields of the only way to split the line.
-/

namespace Chronogram.Reader

open Text Pattern

namespace Reads

variable {kind : StatementKind} {before : Fields}

/-- Read the state of a tick statement at the end of the line. A bare state never starts with a
quote. -/
theorem state {line : List Char} {statement : StateField → Statement}
    (sameKind : ∀ observed, (statement observed).kind = kind)
    (sameFields : ∀ observed, (statement observed).fields = before ++ [observed.field]) :
    Reads kind before
      [.either (Pattern.quoted 3) (.field 4 (Pattern.row fun c => !isBlank c && c ≠ '"'))] line
      (state? line >>= fun (observed, rest) => finish (statement observed) rest) := by
  refine andThen _ (fun value => [value.1.field]) Prod.snd ?_ ?_
    fun (observed, rest) => done (sameKind observed) (sameFields observed)
  · rintro ⟨observed, rest⟩ found
    unfold state? at found
    split at found
    next raw rest quotedFound =>
      obtain ⟨rfl, rfl⟩ := Prod.mk.inj (Option.some.inj found)
      obtain ⟨isRaw, rfl⟩ := quoted?_eq_some_iff.mp quotedFound
      exact ⟨_, .left (match_quoted_iff.mpr ⟨_, isRaw, rfl, rfl⟩), by simp⟩
    next =>
      obtain ⟨⟨token, rest⟩, rowFound, equality⟩ := Option.map_eq_some_iff.mp found
      obtain ⟨rfl, rfl⟩ := Prod.mk.inj equality
      obtain ⟨nonempty, inside, -, rfl⟩ := row?_eq_some_iff.mp rowFound
      exact ⟨_, .right (.field (match_row_iff.mpr ⟨nonempty, inside, rfl⟩)), rfl⟩
  · rintro front after fields others matched following rfl
    obtain ⟨rfl, rfl⟩ := match_sequence_nil.mp following
    rcases match_either_iff.mp matched with isQuoted | isBare
    · obtain ⟨raw, isRaw, rfl, rfl⟩ := match_quoted_iff.mp isQuoted
      have found : quoted? ('"' :: (raw ++ ['"']) ++ []) = some (String.ofList raw, []) :=
        quoted?_eq_some_iff.mpr (by simpa using isRaw)
      exact ⟨(.quoted (String.ofList raw), []), by simp only [state?, found], by
        simp [StateField.field], rfl⟩
    · obtain ⟨_, inner, rfl⟩ := match_field_iff.mp isBare
      obtain ⟨nonempty, inside, rfl⟩ := match_row_iff.mp inner
      have notQuoted : quoted? (front ++ []) = none := by
        cases front with
        | nil => exact absurd rfl nonempty
        | cons c front =>
            have bare := (List.forall_mem_cons.mp inside).1
            refine Option.eq_none_iff_forall_ne_some.mpr ?_
            rintro ⟨raw, rest⟩ quotedFound
            obtain ⟨-, equality⟩ := quoted?_eq_some_iff.mp quotedFound
            obtain ⟨rfl, -⟩ := List.cons.inj equality
            simp at bare
      have found : row? isBareChar (front ++ []) = some (String.ofList front, []) :=
        row?_eq_some_iff.mpr (by simpa using ⟨nonempty, inside⟩)
      exact ⟨(.bare (String.ofList front), []), by simp only [state?, notQuoted, found]; rfl, by
        simp [StateField.field], rfl⟩

end Reads

theorem isBlank_of_notBlank {c : Char} (inside : (!isBlank c) = true) : isBlank c = false := by
  simpa using inside

theorem notBlank_of_isBlank {c : Char} (blank : isBlank c = true) : (!isBlank c) = false := by
  simp [blank]

theorem isBlank_of_bare {c : Char} (inside : (!isBlank c && c ≠ '"') = true) :
    isBlank c = false :=
  isBlank_of_notBlank (Bool.and_eq_true_iff.mp inside).1

theorem isBlank_of_isDigit {c : Char} (digit : isDigit c = true) : isBlank c = false := by
  by_contra blank
  simp [isDigit_eq_false_of_isBlank (by simpa using blank)] at digit

theorem isBlank_of_isWordChar {c : Char} (word : isWordChar c = true) : isBlank c = false := by
  by_contra blank
  simp [isWordChar_eq_false_of_isBlank (by simpa using blank)] at word

theorem avoids_head {belongs : Char → Bool} {number : Nat} {pieces : List Pattern}
    (solid : belongs '-' = false) (dashed : belongs '=' = false) :
    Avoids belongs (Pattern.head number :: pieces) :=
  avoids_field (avoids_either (avoids_text solid) (avoids_text dashed))

theorem avoids_label {belongs : Char → Bool} {number : Nat} {pieces : List Pattern}
    (blanks : ∀ c, isBlank c = true → belongs c = false) (after : Avoids belongs pieces) :
    Avoids belongs (Pattern.label number :: pieces) :=
  avoids_optional (avoids_row blanks) after

theorem slot_of_startsOutside {line : List Char} (outside : StartsOutside (· == ':') line) :
    slot line = (none, line) := by
  unfold slot
  split
  next => simp at outside
  next => rfl

theorem beq_colon_of_isBlank {c : Char} (blank : isBlank c = true) : (c == ':') = false := by
  rw [beq_eq_false_iff_ne]
  rintro rfl
  exact absurd blank (by decide)

theorem unslotted_of_avoids {pieces : List Pattern} (avoids : Avoids (· == ':') pieces) :
    Unslotted pieces :=
  fun line fields matched => slot_of_startsOutside (avoids line fields matched)

theorem unslotted_label {number : Nat} {pieces : List Pattern} (after : Unslotted pieces) :
    Unslotted (Pattern.label number :: pieces) := by
  intro line fields matched
  obtain ⟨front, rest, _, _, first, others, rfl, rfl⟩ := match_sequence_cons.mp matched
  rcases match_label_iff.mp first with ⟨rfl, rfl⟩ | ⟨blanks, raw, tail, own, nonempty, inside, -, -, rfl, -⟩
  · exact after _ _ others
  · rw [List.append_assoc]
    refine slot_of_startsOutside ((startsOutside_append nonempty _).mpr fun c first => ?_)
    exact beq_colon_of_isBlank (inside c (List.mem_of_head? first))

theorem readConfig?_reads (line : List Char) :
    Reads .config [] StatementKind.config.pieces line (readConfig? line) := by
  refine Reads.keyword (avoids_field (avoids_row fun _ => isBlank_of_notBlank)) fun rest => ?_
  refine Reads.row (avoids_row fun _ => notBlank_of_isBlank) fun key rest => ?_
  refine Reads.blanks (avoids_field (avoids_row fun _ => isBlank_of_notBlank)) fun rest => ?_
  refine Reads.row avoids_nil fun value rest => ?_
  exact Reads.done rfl rfl

theorem readTitle?_reads (line : List Char) :
    Reads .title [] StatementKind.title.pieces line (readTitle? line) := by
  refine Reads.keyword (avoids_quoted (by decide)) fun rest => ?_
  refine Reads.quoted fun text rest => ?_
  exact Reads.done rfl rfl

theorem readLifeline?_reads (line : List Char) :
    Reads .lifeline [] StatementKind.lifeline.pieces line (readLifeline? line) := by
  refine Reads.keyword (avoids_quoted (by decide)) fun rest => ?_
  refine Reads.quoted fun name rest => ?_
  exact Reads.done rfl rfl

theorem readStyle?_reads (line : List Char) :
    Reads .style [] StatementKind.style.pieces line (readStyle? line) := by
  refine Reads.keyword (avoids_quoted (by decide)) fun rest => ?_
  refine Reads.quoted fun name rest => ?_
  refine Reads.blanks (avoids_field (avoids_row fun _ => isBlank_of_isWordChar)) fun rest => ?_
  refine Reads.row avoids_nil fun style rest => ?_
  exact Reads.done rfl rfl

theorem readState?_reads (line : List Char) :
    Reads .state [] StatementKind.state.pieces line (readState? line) := by
  refine Reads.keyword (avoids_quoted (by decide)) fun rest => ?_
  refine Reads.quoted fun name rest => ?_
  refine Reads.blanks (avoids_quoted (by decide)) fun rest => ?_
  refine Reads.quoted fun label rest => ?_
  refine Reads.blanks (avoids_field (avoids_row fun _ => isBlank_of_isDigit)) fun rest => ?_
  refine Reads.row avoids_nil fun index rest => ?_
  exact Reads.done rfl rfl

theorem readSpan?_reads (line : List Char) :
    Reads .span [] StatementKind.span.pieces line (readSpan? line) := by
  refine Reads.keyword (avoids_quoted (by decide)) fun rest => ?_
  refine Reads.quoted fun name rest => ?_
  refine Reads.blanks (avoids_text (by decide)) fun rest => ?_
  refine Reads.tick (avoids_text (by decide)) fun originTick rest => ?_
  refine Reads.text fun rest => ?_
  refine Reads.tick (avoids_row fun _ => isDigit_eq_false_of_isBlank) fun destTick rest => ?_
  refine Reads.blanks (avoids_quoted (by decide)) fun rest => ?_
  refine Reads.quoted fun label rest => ?_
  exact Reads.done rfl rfl

theorem readArrow?_reads (line : List Char) :
    Reads .arrow [] StatementKind.arrow.pieces line (readArrow? line) := by
  refine Reads.arrowEnd ?_ ?_ fun origin rest => ?_
  · exact avoids_many (fun _ => isDigit_eq_false_of_isBlank) (avoids_head rfl rfl)
  · exact unslotted_of_avoids (avoids_many (fun _ => beq_colon_of_isBlank) (avoids_head rfl rfl))
  refine Reads.optionalBlanks (fun rest => head? rest >>= _) (avoids_head rfl rfl)
    fun rest => ?_
  refine Reads.head fun style rest => ?_
  refine Reads.optionalBlanks (fun rest => end? rest >>= _) (avoids_text rfl) fun rest => ?_
  refine Reads.arrowEnd ?_ ?_ fun dest rest => ?_
  · exact avoids_label (fun _ => isDigit_eq_false_of_isBlank) (avoids_side 10 rfl)
  · exact unslotted_label fun line fields matched =>
      slot_of_position (unpositioned_side 10 line fields matched)
  refine Reads.label (avoids_side 10 rfl) (avoids_side 10 rfl) (unpositioned_side 10)
    fun label rest => ?_
  refine Reads.side (fun _ => rfl) fun side => ?_
  simp [Statement.fields, ArrowFields.fields]

theorem readTick?_reads (line : List Char) :
    Reads .tick [] StatementKind.tick.pieces line (readTick? line) := by
  refine Reads.tick (avoids_row fun _ => isDigit_eq_false_of_isBlank) fun time rest => ?_
  refine Reads.blanks (avoids_quoted (by decide)) fun rest => ?_
  refine Reads.quoted fun name rest => ?_
  refine Reads.blanks ?_ fun rest => ?_
  · exact avoids_either (avoids_quoted (by decide)) (avoids_field (avoids_row fun _ => isBlank_of_bare))
  exact Reads.state (fun _ => rfl) (fun _ => rfl)

end Chronogram.Reader
