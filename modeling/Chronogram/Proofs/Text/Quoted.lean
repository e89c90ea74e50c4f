import Chronogram.Text.Quoted

/-!
The raw text of quoted fields.

Reading a field up to its closing quote gives the only split of a line into a raw text, a quote and
a rest: a raw text never holds a quote that could close it early.
-/

namespace Chronogram.Text.Quoted

/-- A text can stand between quotes: quotes and backslashes in it stand behind a backslash, and a
backslash stands in front of a character other than a line feed. -/
inductive Raw : List Char → Prop
  | nil : Raw []
  | plain {c rest} : c ≠ '"' → c ≠ '\\' → Raw rest → Raw (c :: rest)
  | hidden {c rest} : c ≠ '\n' → Raw rest → Raw ('\\' :: c :: rest)

theorem body?_append {raw : List Char} (isRaw : Raw raw) (rest : List Char) :
    body? (raw ++ '"' :: rest) = some (raw, rest) := by
  induction isRaw with
  | nil => simp [body?]
  | plain notQuote notBackslash _ inductionHypothesis =>
      rw [List.cons_append, body?]
      · simp [inductionHypothesis]
      · exact notQuote
      · exact fun equality _ => notBackslash equality
      · exact fun _ _ equality _ => notBackslash equality
  | hidden notFeed _ inductionHypothesis => simp [body?, notFeed, inductionHypothesis]

theorem body?_sound {line raw rest : List Char} (found : body? line = some (raw, rest)) :
    Raw raw ∧ line = raw ++ '"' :: rest := by
  fun_induction body? line generalizing raw rest with
  | case1 => simp at found
  | case2 after =>
      simp only [Option.some.injEq, Prod.mk.injEq] at found
      obtain ⟨rfl, rfl⟩ := found
      exact ⟨.nil, rfl⟩
  | case3 => simp at found
  | case4 => simp at found
  | case5 c after notFeed inductionHypothesis =>
      obtain ⟨⟨inner, following⟩, read, equality⟩ := Option.map_eq_some_iff.mp found
      obtain ⟨rfl, rfl⟩ := Prod.mk.inj equality
      obtain ⟨isRaw, rfl⟩ := inductionHypothesis read
      exact ⟨.hidden notFeed isRaw, rfl⟩
  | case6 c after notQuote notLast notHidden inductionHypothesis =>
      obtain ⟨⟨inner, following⟩, read, equality⟩ := Option.map_eq_some_iff.mp found
      obtain ⟨rfl, rfl⟩ := Prod.mk.inj equality
      obtain ⟨isRaw, rfl⟩ := inductionHypothesis read
      refine ⟨.plain notQuote ?_ isRaw, rfl⟩
      rintro rfl
      cases inner with
      | nil => exact notHidden _ _ rfl rfl
      | cons c inner => exact notHidden _ _ rfl rfl

/-- A line starts with a quoted field exactly if a raw text stands between quotes in front of what
is left. -/
theorem field?_eq_some_iff {line raw rest : List Char} :
    field? line = some (raw, rest) ↔ Raw raw ∧ line = '"' :: (raw ++ '"' :: rest) := by
  constructor
  · intro found
    unfold field? at found
    split at found
    next after =>
      obtain ⟨isRaw, rfl⟩ := body?_sound found
      exact ⟨isRaw, rfl⟩
    next => simp at found
  · rintro ⟨isRaw, rfl⟩
    exact body?_append isRaw rest

theorem raw_escape (text : List Char) : Raw (escape text) := by
  induction text with
  | nil => exact .nil
  | cons c rest inductionHypothesis =>
      by_cases special : c = '\\' ∨ c = '"'
      · have notFeed : c ≠ '\n' := by rcases special with rfl | rfl <;> decide
        simpa [escape, special] using Raw.hidden notFeed inductionHypothesis
      · obtain ⟨notBackslash, notQuote⟩ := not_or.mp special
        simpa [escape, notBackslash, notQuote] using
          Raw.plain notQuote notBackslash inductionHypothesis

def doubleBackslashes (text : List Char) : List Char :=
  text.flatMap fun c => if c = '\\' then ['\\', '\\'] else [c]

/-- In a text without quotes there is nothing else to escape. -/
theorem doubleBackslashes_eq_escape {text : List Char} (quoteless : '"' ∉ text) :
    doubleBackslashes text = escape text := by
  induction text with
  | nil => rfl
  | cons c rest inductionHypothesis =>
      simp only [List.mem_cons, not_or] at quoteless
      obtain ⟨notQuote, quotelessRest⟩ := quoteless
      have behind := inductionHypothesis quotelessRest
      unfold doubleBackslashes at behind ⊢
      by_cases backslash : c = '\\' <;> simp [escape, backslash, Ne.symm notQuote, behind]

end Chronogram.Text.Quoted
