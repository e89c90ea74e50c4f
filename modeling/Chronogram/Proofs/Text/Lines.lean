import Chronogram.Text.Lines
import Mathlib.Data.List.Basic

/-!
Lines of a text.

Lines hold no line feed, and every list of such lines is the list of lines of some text. Ended by a
line feed alone, a line keeps its last character only if that is no carriage return; ended by a
carriage return and a line feed, it always does.
-/

namespace Chronogram.Text

theorem linesFrom_append {line : List Char} (feedless : '\n' ∉ line) (seen rest : List Char) :
    linesFrom seen (line ++ '\n' :: rest) =
      (dropReturn (line.reverse ++ seen)).reverse :: lines rest := by
  induction line generalizing seen with
  | nil => simp [linesFrom, lines]
  | cons c line inductionHypothesis =>
      simp only [List.mem_cons, not_or] at feedless
      obtain ⟨notFeed, feedlessRest⟩ := feedless
      have differs : c ≠ '\n' := fun same => notFeed same.symm
      rw [List.cons_append, linesFrom, if_neg differs, inductionHypothesis feedlessRest]
      simp

theorem dropReturn_reverse {text : List Char} (noReturn : ∀ c ∈ text.getLast?, c ≠ '\r') :
    dropReturn text.reverse = text.reverse := by
  unfold dropReturn
  split
  next seen reversed =>
    have last : text.getLast? = some '\r' := by
      rw [← List.head?_reverse, reversed]
      rfl
    exact absurd rfl (noReturn '\r' last)
  next => rfl

theorem lines_append {text : List Char} (feedless : '\n' ∉ text)
    (noReturn : ∀ c ∈ text.getLast?, c ≠ '\r') (rest : List Char) :
    lines (text ++ '\n' :: rest) = text :: lines rest := by
  rw [lines, linesFrom_append feedless, List.append_nil, dropReturn_reverse noReturn,
    List.reverse_reverse]

/-- Lines that are put together with line feeds are cut at these line feeds. -/
theorem lines_flatMap {texts : List (List Char)}
    (whole : ∀ text ∈ texts, '\n' ∉ text ∧ ∀ c ∈ text.getLast?, c ≠ '\r') :
    lines (texts.flatMap fun text => text ++ ['\n']) = texts := by
  induction texts with
  | nil => rfl
  | cons text rest inductionHypothesis =>
      obtain ⟨⟨feedless, noReturn⟩, wholeRest⟩ := List.forall_mem_cons.mp whole
      rw [List.flatMap_cons, List.append_assoc, List.singleton_append,
        lines_append feedless noReturn, inductionHypothesis wholeRest]

theorem linesFrom_of_feedless {text : List Char} (feedless : '\n' ∉ text) (seen : List Char) :
    linesFrom seen text =
      if (text.reverse ++ seen).isEmpty then [] else [(text.reverse ++ seen).reverse] := by
  induction text generalizing seen with
  | nil => rfl
  | cons c rest inductionHypothesis =>
      simp only [List.mem_cons, not_or] at feedless
      have passed : linesFrom seen (c :: rest) = linesFrom (c :: seen) rest :=
        if_neg (Ne.symm feedless.1)
      rw [passed, inductionHypothesis feedless.2]
      simp

/-- Line feeds between lines are enough to tell them apart, if the last one is not empty. -/
theorem lines_intercalate {texts : List (List Char)}
    (whole : ∀ text ∈ texts, text ≠ [] ∧ '\n' ∉ text ∧ ∀ c ∈ text.getLast?, c ≠ '\r') :
    lines (['\n'].intercalate texts) = texts := by
  induction texts with
  | nil => rfl
  | cons text rest inductionHypothesis =>
      obtain ⟨⟨nonempty, feedless, noReturn⟩, wholeRest⟩ := List.forall_mem_cons.mp whole
      cases rest with
      | nil => simp [lines, linesFrom_of_feedless feedless, nonempty]
      | cons next rest =>
          rw [List.intercalate_cons_cons, List.append_assoc, List.singleton_append,
            lines_append feedless noReturn, inductionHypothesis wholeRest]

theorem lines_flatMap_return {texts : List (List Char)} (feedless : ∀ text ∈ texts, '\n' ∉ text) :
    lines (texts.flatMap fun text => text ++ ['\r', '\n']) = texts := by
  induction texts with
  | nil => rfl
  | cons text rest inductionHypothesis =>
      obtain ⟨first, others⟩ := List.forall_mem_cons.mp feedless
      have ended : '\n' ∉ text ++ ['\r'] := by simp [first]
      have split : text ++ ['\r', '\n'] ++ rest.flatMap (fun text => text ++ ['\r', '\n']) =
          text ++ ['\r'] ++ '\n' :: rest.flatMap fun text => text ++ ['\r', '\n'] := by
        simp
      rw [List.flatMap_cons, split, lines, linesFrom_append ended, inductionHypothesis others]
      simp [dropReturn]

theorem exists_text_of_lines {texts : List (List Char)} (feedless : ∀ text ∈ texts, '\n' ∉ text) :
    ∃ text : String, lines text.toList = texts := by
  refine ⟨String.ofList (texts.flatMap fun text => text ++ ['\r', '\n']), ?_⟩
  rw [String.toList_ofList]
  exact lines_flatMap_return feedless

theorem feedless_dropReturn {seen : List Char} (feedless : '\n' ∉ seen) :
    '\n' ∉ dropReturn seen := by
  unfold dropReturn
  split
  · intro later
    exact feedless (List.mem_cons_of_mem _ later)
  · exact feedless

theorem feedless_of_mem_linesFrom {seen text line : List Char} (feedless : '\n' ∉ seen)
    (stands : line ∈ linesFrom seen text) : '\n' ∉ line := by
  induction text generalizing seen with
  | nil =>
      unfold linesFrom at stands
      split at stands
      · simp at stands
      · obtain rfl := List.mem_singleton.mp stands
        simpa using feedless
  | cons c rest inductionHypothesis =>
      unfold linesFrom at stands
      split at stands
      · rcases List.mem_cons.mp stands with rfl | later
        · simpa using feedless_dropReturn feedless
        · exact inductionHypothesis (by simp) later
      · rename_i differs
        exact inductionHypothesis (by simp [feedless, Ne.symm differs]) stands

theorem feedless_of_mem_lines {text line : List Char} (stands : line ∈ lines text) :
    '\n' ∉ line :=
  feedless_of_mem_linesFrom (by simp) stands

/-- The parts between line feeds are those that splitting gives. -/
theorem feedParts_eq_splitOn (text : List Char) : feedParts text = text.splitOn '\n' := by
  suffices ∀ seen, feedPartsFrom seen text = text.splitOnPPrepend (· == '\n') seen from this []
  induction text with
  | nil => exact fun seen => rfl
  | cons c rest inductionHypothesis =>
      intro seen
      by_cases feed : c = '\n'
      · rw [feedPartsFrom, if_pos feed, inductionHypothesis,
          List.splitOnPPrepend_cons_pos (by simpa using feed), List.splitOnP_eq_splitOnPPrepend]
      · rw [feedPartsFrom, if_neg feed, inductionHypothesis,
          List.splitOnPPrepend_cons_neg (by simpa using feed)]

end Chronogram.Text
