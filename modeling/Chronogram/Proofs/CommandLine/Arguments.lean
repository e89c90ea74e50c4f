import Chronogram.CommandLine.Options

/-!
What reading the arguments makes of an id and of a question for help.

The id comes from the argument behind the option for it, and is made an identifier on the way. A
question for help ends the reading, unless it is the value of an option or stands behind two dashes.
-/

namespace Chronogram.CommandLine.Options

/-- An id that the arguments ask for, made an identifier. -/
def Identifies (arguments : List String) (id : String) : Prop :=
  ∃ before raw after, arguments = before ++ "--id" :: raw :: after ∧
    id = Svg.Identifier.ofText raw

/-- Options with the id of earlier ones or with one that the arguments ask for. -/
def Renames (arguments : List String) (options next : Options) : Prop :=
  next.rootId = options.rootId ∨ ∃ id, Identifies arguments id ∧ next.rootId = some id

variable {options changed next : Options}

theorem Renames.behind {arguments : List String} (renames : Renames arguments changed next)
    (same : changed.rootId = options.rootId) (earlier : List String) :
    Renames (earlier ++ arguments) options next := by
  rcases renames with kept | ⟨id, ⟨before, raw, after, split, identifier⟩, given⟩
  · exact .inl (kept.trans same)
  · refine .inr ⟨id, ⟨earlier ++ before, raw, after, ?_, identifier⟩, given⟩
    rw [split, List.append_assoc]

theorem mem_reservedWords {argument : String} {word : Word} (known : word ≠ .unknown)
    (other : word ≠ .path) (here : Word.ofArgument argument = word) :
    (argument, word) ∈ reservedWords := by
  unfold Word.ofArgument at here
  split at here
  next found looked =>
    subst here
    obtain ⟨before, after, split, -⟩ := List.lookup_eq_some_iff.mp looked
    simp [split]
  next =>
    split at here
    · exact False.elim (known here.symm)
    · exact False.elim (other here.symm)

theorem argument_of_rootId {argument : String}
    (word : Word.ofArgument argument = .setting .rootId) : argument = "--id" := by
  simpa [reservedWords] using mem_reservedWords (by simp) (by simp) word

theorem argument_of_separator {argument : String} (word : Word.ofArgument argument = .separator) :
    argument = "--" := by
  simpa [reservedWords] using mem_reservedWords (by simp) (by simp) word

/-- Asking for help is refused, unless an option takes the question as its value or two dashes make
it a path. -/
theorem readFrom?_help {before : List String} (read : (options.readFrom? before).isSome)
    (undashed : "--" ∉ before) {help : String} (asked : Word.ofArgument help = .help)
    (after : List String) : options.readFrom? (before ++ help :: after) = none := by
  fun_induction readFrom? options before with
  | case1 => simp [readFrom?, asked]
  | case2 | case3 | case6 | case8 | case11 => cases read
  | case4 options argument rest command word inductionHypothesis =>
      rw [List.cons_append, readFrom?]
      simp only [word]
      exact inductionHypothesis read (List.not_mem_of_not_mem_cons undashed)
  | case5 options argument rest switch word inductionHypothesis =>
      rw [List.cons_append, readFrom?]
      simp only [word]
      exact inductionHypothesis read (List.not_mem_of_not_mem_cons undashed)
  | case7 options argument setting word value rest changed given inductionHypothesis =>
      rw [List.cons_append, List.cons_append, readFrom?]
      simp only [word, given]
      apply inductionHypothesis read
      exact List.not_mem_of_not_mem_cons (List.not_mem_of_not_mem_cons undashed)
  | case9 options argument rest word =>
      exact False.elim (undashed (argument_of_separator word ▸ List.mem_cons_self))
  | case10 options argument rest word changed given inductionHypothesis =>
      rw [List.cons_append, readFrom?]
      simp only [word, given]
      exact inductionHypothesis read (List.not_mem_of_not_mem_cons undashed)

theorem read?_help {arguments before after : List String} {help : String}
    (split : arguments = before ++ help :: after) (asked : help = "--help" ∨ help = "-h")
    (read : (Options.read? before).isSome) (undashed : "--" ∉ before) :
    Options.read? arguments = none := by
  have word : Word.ofArgument help = .help := by rcases asked with rfl | rfl <;> decide
  exact split ▸ readFrom?_help read undashed word after

theorem rootId_set? {setting : Setting} {value : String} (other : setting ≠ .rootId)
    (given : options.set? setting value = some next) : next.rootId = options.rootId := by
  cases setting with
  | format =>
      obtain ⟨format, -, rfl⟩ := Option.map_eq_some_iff.mp given
      rfl
  | scale =>
      obtain ⟨scale, -, rfl⟩ := Option.map_eq_some_iff.mp given
      rfl
  | background =>
      unfold set? at given
      dsimp only at given
      split at given
      all_goals
        obtain rfl := Option.some.inj given
        rfl
  | rootId => exact False.elim (other rfl)
  | out =>
      obtain rfl := Option.some.inj given
      rfl

theorem rootId_addInput? {path : String} (given : options.addInput? path = some next) :
    next.rootId = options.rootId := by
  unfold addInput? at given
  split at given
  · obtain rfl := Option.some.inj given
    rfl
  · cases given

theorem rootId_readPath? {arguments : List String}
    (read : options.readPath? arguments = some next) : next.rootId = options.rootId := by
  unfold readPath? at read
  split at read
  · obtain rfl := Option.some.inj read
    rfl
  · exact rootId_addInput? read
  · cases read

theorem renames_readFrom? {arguments : List String}
    (read : options.readFrom? arguments = some next) : Renames arguments options next := by
  fun_induction readFrom? options arguments with
  | case1 =>
      obtain rfl := Option.some.inj read
      exact .inl rfl
  | case2 | case3 | case6 | case8 | case11 => cases read
  | case4 options argument rest command word inductionHypothesis =>
      exact (inductionHypothesis read).behind rfl [argument]
  | case5 options argument rest switch word inductionHypothesis =>
      refine (inductionHypothesis read).behind ?_ [argument]
      cases switch <;> rfl
  | case7 options argument setting word value rest changed given inductionHypothesis =>
      by_cases identifying : setting = .rootId
      · subst identifying
        obtain rfl := argument_of_rootId word
        obtain rfl := Option.some.inj given
        rcases inductionHypothesis read with kept | renamed
        · exact .inr ⟨_, ⟨[], value, rest, rfl, rfl⟩, kept⟩
        · exact Renames.behind (.inr renamed) rfl ["--id", value]
      · exact (inductionHypothesis read).behind (rootId_set? identifying given) [argument, value]
  | case9 => exact .inl (rootId_readPath? read)
  | case10 options argument rest word changed given inductionHypothesis =>
      exact (inductionHypothesis read).behind (rootId_addInput? given) [argument]

/-- The root element gets no id that the arguments do not ask for. -/
theorem identifies_read? {arguments : List String} (read : Options.read? arguments = some options) :
    ∀ id ∈ options.rootId, Identifies arguments id := by
  intro id given
  rcases renames_readFrom? read with none | ⟨other, identifies, renamed⟩
  · rw [none] at given
    cases given
  · rw [renamed] at given
    exact Option.some.inj given ▸ identifies

end Chronogram.CommandLine.Options
