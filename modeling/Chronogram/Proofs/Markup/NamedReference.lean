import Chronogram.Markup.NamedReference
import Mathlib.Data.List.Nodup
import Mathlib.Order.Basic

/-!
The names of characters, as one table.

A name is searched for in one group of the table, up to the first entry that the text starts with.
That this finds the longest of all names rests on the order in which the table lists them, which is
checked by evaluation.
-/

namespace Chronogram.Markup.NamedReference

/-- All names with the characters they stand for. -/
def names : List (List Char × List Char) :=
  characterGroups.flatMap Prod.snd

/-- A text starts with a name that stands for some characters and has a length, and with no longer
name. -/
def StartsWithName (text meant : List Char) (used : Nat) : Prop :=
  ∃ name, (name, meant) ∈ names ∧ name <+: text ∧ name.length = used ∧
    ∀ other ∈ names, other.1 <+: text → other.1.length ≤ used

section Bytes

/-- The bytes of a text, read as characters. Evaluating this takes far less than decoding them. -/
def byteCharacters (text : String) : List Char :=
  text.toByteArray.data.toList.map fun byte => Char.ofNat byte.toNat

theorem utf8EncodeChar_ofNat {byte : UInt8} (ascii : byte < 128) :
    String.utf8EncodeChar (Char.ofNat byte.toNat) = [byte] := by
  have small : byte.toNat < 128 := ascii
  have valid : byte.toNat.isValidChar := Or.inl (by omega)
  have code : (Char.ofNat byte.toNat).val.toNat = byte.toNat := by
    rw [Char.ofNat, dif_pos valid]
    rfl
  have bounded : byte.toNat ≤ 127 := by omega
  simp [String.utf8EncodeChar, code, bounded]

theorem toList_eq_byteCharacters {text : String}
    (ascii : text.toByteArray.data.toList.all (· < 128)) :
    text.toList = byteCharacters text := by
  have encoded : (byteCharacters text).flatMap String.utf8EncodeChar =
      text.toByteArray.data.toList := by
    rw [byteCharacters, List.flatMap_map]
    refine Eq.trans ?_ (List.flatMap_singleton' _)
    refine List.flatMap_congr fun byte stands => utf8EncodeChar_ofNat ?_
    simpa using List.all_eq_true.mp ascii byte stands
  have same : text = String.ofList (byteCharacters text) := by
    apply String.toByteArray_inj.mp
    apply ByteArray.ext
    simp [String.ofList, List.utf8Encode, encoded]
  rw [same, String.toList_ofList, ← same]

end Bytes

section Order

/-- The table by evaluation: names are ASCII text that starts with the letter of its group and has
a semicolon at most at its end, and in each group they descend. -/
theorem groups_ordered : ∀ group ∈ groups,
    (∀ entry ∈ group.2, entry.1.toByteArray.data.toList.all (· < 128) ∧
      (byteCharacters entry.1).head? = some group.1 ∧
      ';' ∉ (byteCharacters entry.1).dropLast) ∧
    (group.2.map fun entry => byteCharacters entry.1).IsChain (fun name next => next < name) := by
  decide +kernel

theorem initials_nodup : (characterGroups.map Prod.fst).Nodup := by
  decide +kernel

variable {initial : Char} {entries : List (List Char × List Char)}

/-- What holds of the table by evaluation holds of its names as rows of characters. -/
theorem group_ordered (listed : (initial, entries) ∈ characterGroups) :
    (∀ entry ∈ entries, entry.1.head? = some initial ∧ ';' ∉ entry.1.dropLast) ∧
      entries.Pairwise fun earlier later => later.1 < earlier.1 := by
  obtain ⟨⟨letter, raw⟩, grouped, same⟩ := List.mem_map.mp listed
  obtain ⟨rfl, rfl⟩ := Prod.mk.inj same
  obtain ⟨spelt, descends⟩ := groups_ordered _ grouped
  have decoded : ∀ entry ∈ raw, entry.1.toList = byteCharacters entry.1 :=
    fun entry stands => toList_eq_byteCharacters (spelt entry stands).1
  constructor
  · intro entry stands
    obtain ⟨written, inGroup, rfl⟩ := List.mem_map.mp stands
    simpa only [decoded written inGroup] using (spelt written inGroup).2
  · have transitive : Trans (fun name next : List Char => next < name)
        (fun name next => next < name) (fun name next => next < name) :=
      ⟨fun first second => List.lt_trans second first⟩
    have spelling : raw.map (fun entry => byteCharacters entry.1) =
        raw.map fun entry => entry.1.toList :=
      List.map_congr_left fun entry stands => (decoded entry stands).symm
    rw [spelling] at descends
    have apart := List.isChain_iff_pairwise.mp descends
    rw [List.pairwise_map] at apart ⊢
    exact apart

theorem mem_names_iff {entry : List Char × List Char} :
    entry ∈ names ↔ ∃ initial entries, (initial, entries) ∈ characterGroups ∧ entry ∈ entries := by
  simp [names]

theorem exists_group_of_starts {entry : List Char × List Char} {rest : List Char}
    (named : entry ∈ names) (starts : entry.1 <+: initial :: rest) :
    ∃ entries, (initial, entries) ∈ characterGroups ∧ entry ∈ entries := by
  obtain ⟨letter, entries, listed, stands⟩ := mem_names_iff.mp named
  have first := ((group_ordered listed).1 entry stands).1
  obtain ⟨behind, whole⟩ := starts
  cases spelling : entry.1 with
  | nil => simp [spelling] at first
  | cons c others =>
      simp only [spelling, List.head?_cons, Option.some.injEq, List.cons_append,
        List.cons.injEq] at first whole
      obtain rfl : letter = initial := first.symm.trans whole.1
      exact ⟨entries, listed, stands⟩

theorem mem_group_iff_mem_names {entry : List Char × List Char} {rest : List Char}
    (listed : (initial, entries) ∈ characterGroups) (starts : entry.1 <+: initial :: rest) :
    entry ∈ entries ↔ entry ∈ names := by
  constructor
  · intro stands
    exact mem_names_iff.mpr ⟨initial, entries, listed, stands⟩
  · intro named
    obtain ⟨group, listedToo, stands⟩ := exists_group_of_starts named starts
    have same := List.inj_on_of_nodup_map initials_nodup listedToo listed rfl
    obtain ⟨-, rfl⟩ := Prod.mk.inj same
    exact stands

end Order

section Search

variable {text meant : List Char} {used : Nat}

/-- Of two names that a text starts with the lesser one is shorter. -/
theorem length_lt_of_lt {first second : List Char} (below : second < first)
    (starts : first <+: text) (startsToo : second <+: text) : second.length < first.length := by
  refine Nat.lt_of_not_le fun longer => ?_
  have before := List.prefix_of_prefix_length_le starts startsToo longer
  exact List.not_lt.mpr before.le below

/-- In a descending list of names the first one that a text starts with is the longest. -/
theorem findSome?_eq_some_iff_longest {entries : List (List Char × List Char)}
    (descends : entries.Pairwise fun earlier later => later.1 < earlier.1) :
    (entries.findSome? fun (name, characters) =>
        if name.isPrefixOf text then some (characters, name.length) else none) =
          some (meant, used) ↔
      ∃ name, (name, meant) ∈ entries ∧ name <+: text ∧ name.length = used ∧
        ∀ other ∈ entries, other.1 <+: text → other.1.length ≤ used := by
  rw [List.findSome?_eq_some_iff]
  constructor
  · rintro ⟨earlier, ⟨name, characters⟩, later, rfl, found, passed⟩
    obtain ⟨starts, rfl, rfl⟩ : name <+: text ∧ characters = meant ∧ name.length = used := by
      simpa using found
    refine ⟨name, by simp, starts, rfl, ?_⟩
    intro other stands startsToo
    rcases List.mem_append.mp stands with before | fromHere
    · simpa [startsToo] using passed other before
    · rcases List.mem_cons.mp fromHere with rfl | behind
      · exact Nat.le_refl _
      · have below := (List.pairwise_cons.mp (List.pairwise_append.mp descends).2.1).1 other behind
        exact Nat.le_of_lt (length_lt_of_lt below starts startsToo)
  · rintro ⟨name, stands, starts, rfl, longest⟩
    obtain ⟨earlier, later, rfl⟩ := List.append_of_mem stands
    refine ⟨earlier, (name, meant), later, rfl, by simpa using starts, ?_⟩
    intro other before
    have below : name < other.1 :=
      (List.pairwise_append.mp descends).2.2 other before _ List.mem_cons_self
    have refused : ¬ other.1 <+: text := by
      intro startsToo
      have longer := length_lt_of_lt below startsToo starts
      exact absurd (longest other (List.mem_append_left _ before) startsToo) (Nat.not_le.mpr longer)
    simpa using refused

/-- The search finds the longest of all names that a text starts with. -/
theorem ofText?_eq_some_iff : ofText? text = some (meant, used) ↔ StartsWithName text meant used := by
  cases text with
  | nil =>
      refine iff_of_false (by simp [ofText?]) ?_
      rintro ⟨name, named, starts, -⟩
      obtain ⟨letter, group, listed, stands⟩ := mem_names_iff.mp named
      have first := ((group_ordered listed).1 _ stands).1
      simp [List.prefix_nil.mp starts] at first
  | cons initial rest =>
      rw [ofText?]
      cases found : characterGroups.lookup initial with
      | none =>
          refine iff_of_false (by simp) ?_
          rintro ⟨name, named, starts, -⟩
          obtain ⟨entries, listed, -⟩ := exists_group_of_starts named starts
          simpa using List.lookup_eq_none_iff.mp found _ listed
      | some entries =>
          obtain ⟨before, behind, split, -⟩ := List.lookup_eq_some_iff.mp found
          have listed : (initial, entries) ∈ characterGroups := by simp [split]
          refine (findSome?_eq_some_iff_longest (group_ordered listed).2).trans ?_
          constructor
          · rintro ⟨name, stands, starts, length, longest⟩
            refine ⟨name, (mem_group_iff_mem_names listed starts).mp stands, starts, length, ?_⟩
            intro other named startsToo
            exact longest other ((mem_group_iff_mem_names listed startsToo).mpr named) startsToo
          · rintro ⟨name, named, starts, length, longest⟩
            refine ⟨name, (mem_group_iff_mem_names listed starts).mpr named, starts, length, ?_⟩
            intro other stands startsToo
            exact longest other ((mem_group_iff_mem_names listed startsToo).mp stands) startsToo

end Search

end Chronogram.Markup.NamedReference
