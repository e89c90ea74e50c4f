import Chronogram.Markup.Entity
import Chronogram.Proofs.Markup.NamedReference

/-!
Decoding as a relation.

The relation passes over a text once, from left to right: at an ampersand it takes the reference
that stands there, which is a number or the longest name, and goes on behind it; every other
character it keeps. The decoder is this relation, so that it tries some names before the others
changes nothing.
-/

namespace Chronogram.Markup

open NamedReference

/-- A text behind an ampersand starts with a reference that stands for some characters and takes a
number of characters. -/
inductive Refers : List Char → List Char → Nat → Prop where
  | number {rest : List Char} {c : Char} {used : Nat}
      (read : numericReference? rest = some (c, used)) : Refers ('#' :: rest) [c] (used + 1)
  | name {text meant : List Char} {used : Nat} (named : StartsWithName text meant used) :
      Refers text meant used

/-- A markup text says a text. -/
inductive Decodes : List Char → List Char → Prop where
  | done : Decodes [] []
  | keep {c : Char} {rest text : List Char}
      (plain : c = '&' → ∀ meant used, ¬ Refers rest meant used) (behind : Decodes rest text) :
      Decodes (c :: rest) (c :: text)
  | replace {rest meant text : List Char} {used : Nat} (refers : Refers rest meant used)
      (behind : Decodes (rest.drop used) text) : Decodes ('&' :: rest) (meant ++ text)

section Reference

theorem escapeReferences_listed : ∀ reference ∈ escapeReferences, ';' ∈ reference.1 ∧
    ∃ group ∈ groups, (String.ofList reference.1, [reference.2.toNat]) ∈ group.2 := by
  decide +kernel

theorem mem_names_of_mem_escapeReferences {name : List Char} {c : Char}
    (written : (name, c) ∈ escapeReferences) : (name, [c]) ∈ names := by
  obtain ⟨-, group, grouped, stands⟩ := escapeReferences_listed _ written
  refine mem_names_iff.mpr ⟨group.1, _, List.mem_map_of_mem grouped, ?_⟩
  refine List.mem_map.mpr ⟨_, stands, ?_⟩
  simp

/-- A name that escaping writes ends in a semicolon, so no name goes on behind it. -/
theorem startsWithName_of_escapeReference? {text : List Char} {c : Char} {used : Nat}
    (found : escapeReference? text = some (c, used)) : StartsWithName text [c] used := by
  obtain ⟨⟨name, meant⟩, written, here⟩ := List.exists_of_findSome?_eq_some found
  obtain ⟨starts, rfl, rfl⟩ : name <+: text ∧ meant = c ∧ name.length = used := by
    simpa using here
  refine ⟨name, mem_names_of_mem_escapeReferences written, starts, rfl, ?_⟩
  intro other named startsToo
  refine Nat.le_of_not_lt fun longer => ?_
  obtain ⟨behind, whole⟩ := List.prefix_of_prefix_length_le starts startsToo (Nat.le_of_lt longer)
  have more : behind ≠ [] := by
    rintro rfl
    simp [← whole] at longer
  obtain ⟨letter, entries, listed, stands⟩ := mem_names_iff.mp named
  have final := ((group_ordered listed).1 other stands).2
  rw [← whole, List.dropLast_append_of_ne_nil more] at final
  exact final (List.mem_append_left _ (escapeReferences_listed _ written).1)

/-- Trying the references that escaping writes first gives no other answer. -/
theorem reference?_of_ne {text : List Char} (notNumber : text.head? ≠ some '#') :
    reference? text = ofText? text := by
  unfold reference?
  split
  · simp at notNumber
  · split
    next c used found =>
      exact (ofText?_eq_some_iff.mpr (startsWithName_of_escapeReference? found)).symm
    next => rfl

theorem reference?_eq_some_iff {text meant : List Char} {used : Nat} :
    reference? text = some (meant, used) ↔ Refers text meant used := by
  by_cases number : text.head? = some '#'
  · obtain ⟨rest, rfl⟩ := List.head?_eq_some_iff.mp number
    constructor
    · intro found
      obtain ⟨⟨c, taken⟩, read, same⟩ := Option.map_eq_some_iff.mp found
      obtain ⟨rfl, rfl⟩ := Prod.mk.inj same
      exact .number read
    · intro refers
      cases refers with
      | number read => simp [reference?, read]
      | name named =>
          obtain ⟨name, known, starts, -⟩ := named
          obtain ⟨entries, listed, -⟩ := exists_group_of_starts known starts
          have absent : '#' ∉ characterGroups.map Prod.fst := by decide +kernel
          exact absurd (List.mem_map_of_mem listed) absent
  · rw [reference?_of_ne number, ofText?_eq_some_iff]
    constructor
    · exact .name
    · intro refers
      cases refers with
      | number read => simp at number
      | name named => exact named

end Reference

theorem decodeAfter_eq (used : Nat) (text : List Char) :
    decodeAfter used text = decode (text.drop used) := by
  induction used generalizing text with
  | zero => rfl
  | succ used inductionHypothesis =>
      cases text with
      | nil => rfl
      | cons c rest => exact inductionHypothesis rest

theorem decodes_decodeAfter (pending : Nat) (text : List Char) :
    Decodes (text.drop pending) (decodeAfter pending text) := by
  fun_induction decodeAfter pending text with
  | case1 => simpa using Decodes.done
  | case2 pending c rest inductionHypothesis => exact inductionHypothesis
  | case3 rest meant used found inductionHypothesis =>
      exact .replace (reference?_eq_some_iff.mp found) inductionHypothesis
  | case4 rest missing inductionHypothesis =>
      refine .keep (fun _ meant used refers => ?_) inductionHypothesis
      simp [reference?_eq_some_iff.mpr refers] at missing
  | case5 c rest differs inductionHypothesis =>
      exact .keep (fun same => absurd same differs) inductionHypothesis

theorem decode_eq_of_decodes {markup text : List Char} (decodes : Decodes markup text) :
    decode markup = text := by
  induction decodes with
  | done => rfl
  | @keep c rest text plain behind inductionHypothesis =>
      have kept : decode (c :: rest) = c :: decode rest := by
        unfold decode
        rw [decodeAfter]
        split
        next ampersand =>
          split
          next meant used found =>
            exact absurd (reference?_eq_some_iff.mp found) (plain ampersand meant used)
          next => rfl
        next => rfl
      rw [kept, inductionHypothesis]
  | @replace rest meant text used refers behind inductionHypothesis =>
      have replaced : decode ('&' :: rest) = meant ++ decodeAfter used rest := by
        simp [decode, decodeAfter, reference?_eq_some_iff.mpr refers]
      rw [replaced, decodeAfter_eq, inductionHypothesis]

theorem decode_eq_iff {markup text : List Char} : decode markup = text ↔ Decodes markup text := by
  constructor
  · rintro rfl
    exact decodes_decodeAfter 0 markup
  · exact decode_eq_of_decodes

/-- What comes out of a reference is not read as markup again. -/
example : decode "&amp;lt; &#38;amp; &ampx &amp".toList = "&lt; &amp; &x &".toList := by
  decide +kernel

/-- A text without ampersands holds no reference. -/
theorem decode_of_not_mem {text : List Char} (plain : '&' ∉ text) : decode text = text := by
  refine decode_eq_of_decodes ?_
  induction text with
  | nil => exact .done
  | cons c rest inductionHypothesis =>
      obtain ⟨differs, plainRest⟩ := not_or.mp (mt List.mem_cons.mpr plain)
      exact .keep (fun same => absurd same.symm differs) (inductionHypothesis plainRest)

end Chronogram.Markup
