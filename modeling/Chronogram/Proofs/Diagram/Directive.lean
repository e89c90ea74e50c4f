import Chronogram.Proofs.Diagram.InPlace
import Chronogram.Proofs.Number.Reading

/-!
What a row of directives comes to.

The values that a key allows are stated apart from their readers. A directive that is refused leaves
the draft as it was, and every other one sets one field of the settings or none. So the fields can be
followed one by one: each ends as the last directive that sets it says. The order of directives for
different keys does not matter, nor does the way in which their keys are spelled.
-/

namespace Chronogram

open Text

/-- The names of a mode, as spellings are compared. -/
def LegendMode.names : LegendMode → List (List Char)
  | .byFrequency => ["frequency".toList, "byfrequency".toList]
  | .onlySignificant => ["significant".toList, "onlysignificant".toList]

theorem LegendMode.ofName?_eq_some_iff {text : List Char} {mode : LegendMode} :
    LegendMode.ofName? text = some mode ↔ asciiLower (trim text) ∈ mode.names := by
  unfold LegendMode.ofName?
  dsimp only
  generalize asciiLower (trim text) = name
  constructor
  · intro read
    split_ifs at read with frequency significant
    · cases read
      simpa [LegendMode.names] using frequency
    · cases read
      simpa [LegendMode.names] using significant
  · intro membership
    cases mode <;> fin_cases membership <;> decide

namespace Config

/-- The name of a key, as spellings are compared. -/
def Key.name : Key → List Char
  | .tickWidth => "tickwidth".toList
  | .legendFrequency => "legendfrequency".toList
  | .legendMode => "legendmode".toList
  | .scale => "scale".toList

/-- What a value means for a key: numbers above zero for the lengths, a whole number above zero that
fits 32 bits for the frequency, and the names of the modes. -/
inductive Means : Key → String → Setting → Prop where
  | tickWidth {value : String} {width : Float}
      (number : Number.SpellsPositive value.toList width) :
      Means .tickWidth value (.tickWidth width)
  | legendFrequency {value : String} {digits : List Char} {n : Nat}
      (unsigned : value.toList = digits ∨ value.toList = '+' :: digits) (some : digits ≠ [])
      (denotes : Numeral.Denotes digits n) (positive : 0 < n) (fits : n < 2 ^ 32) :
      Means .legendFrequency value (.legendFrequency n)
  | legendMode {value : String} {mode : LegendMode}
      (name : asciiLower (trim value.toList) ∈ mode.names) :
      Means .legendMode value (.legendMode mode)
  | scale {value : String} {factor : Float}
      (number : Number.SpellsPositive value.toList factor) :
      Means .scale value (.scale factor)

/-! ### The readers -/

theorem Key.ofText?_eq_some_iff {text : List Char} {key : Key} :
    Key.ofText? text = some key ↔ normalizeKey text = key.name := by
  unfold Key.ofText?
  dsimp only
  generalize normalizeKey text = name
  constructor
  · intro read
    split_ifs at read with tickWidth frequency mode scale
    all_goals
      cases read
      assumption
  · rintro rfl
    cases key <;> decide

theorem unsigned?_eq_some {text digits : List Char} {bound n : Nat}
    (unsigned : text = digits ∨ text = '+' :: digits) (some : digits ≠ [])
    (denotes : Numeral.Denotes digits n) (fits : n < bound) :
    Numeral.unsigned? bound text = .some n := by
  rcases unsigned with rfl | rfl
  · have noSign := Number.unsigned_of_denotes some denotes
    exact (Numeral.unsigned?_eq_some_iff some fun rest => (noSign rest).1).mpr ⟨denotes, fits⟩
  · have natural := Number.natural?_eq_some_iff.mpr ⟨some, denotes⟩
    simp [Numeral.unsigned?, natural, fits]

theorem positiveNatural?_eq_some_iff {text : List Char} {n : Nat} :
    positiveNatural? text = some n ↔
      ∃ digits, (text = digits ∨ text = '+' :: digits) ∧ digits ≠ [] ∧
        Numeral.Denotes digits n ∧ 0 < n ∧ n < 2 ^ 32 := by
  have bound : Numeral.halfWordBound = 2 ^ 32 := by decide
  rw [positiveNatural?, Option.filter_eq_some_iff, decide_eq_true_eq, bound]
  constructor
  · rintro ⟨read, positive⟩
    unfold Numeral.unsigned? at read
    obtain ⟨natural, fits⟩ := Option.filter_eq_some_iff.mp read
    obtain ⟨some, denotes⟩ := Number.natural?_eq_some_iff.mp natural
    refine ⟨_, ?_, some, denotes, positive, of_decide_eq_true fits⟩
    split
    · exact .inr rfl
    · exact .inl rfl
  · rintro ⟨digits, unsigned, some, denotes, positive, fits⟩
    exact ⟨unsigned?_eq_some unsigned some denotes fits, positive⟩

theorem positiveFloat?_eq_some_iff {text : List Char} {x : Float} :
    positiveFloat? text = some x ↔ Number.SpellsPositive text x :=
  Number.read?_positive_iff

theorem expect_eq_ok_iff {α : Type} {expectation : Expectation} {make : α → Setting}
    {read : Option α} {setting : Setting} :
    expect expectation make read = .ok setting ↔
      ∃ value, read = some value ∧ make value = setting := by
  cases read <;> simp [expect]

theorem read_eq_ok_iff {key : Key} {value : String} {setting : Setting} :
    key.read value.toList = .ok setting ↔ Means key value setting := by
  constructor
  · intro read
    cases key with
    | tickWidth =>
        obtain ⟨width, number, rfl⟩ := expect_eq_ok_iff.mp read
        exact .tickWidth (positiveFloat?_eq_some_iff.mp number)
    | legendFrequency =>
        obtain ⟨n, natural, rfl⟩ := expect_eq_ok_iff.mp read
        obtain ⟨digits, unsigned, some, denotes, positive, fits⟩ :=
          positiveNatural?_eq_some_iff.mp natural
        exact .legendFrequency unsigned some denotes positive fits
    | legendMode =>
        obtain ⟨mode, name, rfl⟩ := expect_eq_ok_iff.mp read
        exact .legendMode (LegendMode.ofName?_eq_some_iff.mp name)
    | scale =>
        obtain ⟨factor, number, rfl⟩ := expect_eq_ok_iff.mp read
        exact .scale (positiveFloat?_eq_some_iff.mp number)
  · intro means
    cases means with
    | tickWidth number =>
        exact expect_eq_ok_iff.mpr ⟨_, positiveFloat?_eq_some_iff.mpr number, rfl⟩
    | legendFrequency unsigned some denotes positive fits =>
        have natural := positiveNatural?_eq_some_iff.mpr
          ⟨_, unsigned, some, denotes, positive, fits⟩
        exact expect_eq_ok_iff.mpr ⟨_, natural, rfl⟩
    | legendMode name =>
        exact expect_eq_ok_iff.mpr ⟨_, LegendMode.ofName?_eq_some_iff.mpr name, rfl⟩
    | scale number =>
        exact expect_eq_ok_iff.mpr ⟨_, positiveFloat?_eq_some_iff.mpr number, rfl⟩

/-! ### The fields -/

def Setting.key : Setting → Key
  | .tickWidth _ => .tickWidth
  | .legendFrequency _ => .legendFrequency
  | .legendMode _ => .legendMode
  | .scale _ => .scale

def get (config : Config) : Key → Setting
  | .tickWidth => .tickWidth config.tickWidth
  | .legendFrequency => .legendFrequency config.legendFrequency
  | .legendMode => .legendMode config.legendMode
  | .scale => .scale config.scale

theorem Means.key {key : Key} {value : String} {setting : Setting}
    (means : Means key value setting) : setting.key = key := by
  cases means <;> rfl

theorem get_set (config : Config) (setting : Setting) (key : Key) :
    (config.set setting).get key = if setting.key = key then setting else config.get key := by
  cases setting <;> cases key <;> rfl

theorem ext_get {first second : Config} (same : ∀ key, first.get key = second.get key) :
    first = second := by
  obtain ⟨width, frequency, mode, scale⟩ := first
  have widths := same .tickWidth
  have frequencies := same .legendFrequency
  have modes := same .legendMode
  have scales := same .scale
  cases widths
  cases frequencies
  cases modes
  cases scales
  rfl

theorem set_comm (config : Config) {first second : Setting} (different : first.key ≠ second.key) :
    (config.set first).set second = (config.set second).set first := by
  refine ext_get fun key => ?_
  simp only [get_set]
  split_ifs with isSecond isFirst
  · exact absurd (isFirst.trans isSecond.symm) different
  · rfl
  · rfl
  · rfl

/-- Settings that a drawing can be made with: finite lengths above zero, and a frequency of one at
least. -/
structure Valid (config : Config) : Prop where
  tickWidth : 0 < config.tickWidth ∧ config.tickWidth.isFinite = true
  legendFrequency : 1 ≤ config.legendFrequency
  scale : 0 < config.scale ∧ config.scale.isFinite = true

theorem Valid.set {config : Config} {key : Key} {value : String} {setting : Setting}
    (valid : config.Valid) (means : Means key value setting) : (config.set setting).Valid := by
  cases means with
  | tickWidth number =>
      obtain ⟨q, spells, rounds, positive⟩ := number
      exact { valid with tickWidth := ⟨positive, rounds.finite⟩ }
  | legendFrequency _ _ _ positive _ => exact { valid with legendFrequency := positive }
  | legendMode => exact { valid with }
  | scale number =>
      obtain ⟨q, spells, rounds, positive⟩ := number
      exact { valid with scale := ⟨positive, rounds.finite⟩ }

theorem standard_valid : standard.Valid where
  tickWidth := by decide +kernel
  legendFrequency := by decide
  scale := by decide +kernel

/-! ### Directives -/

/-- A key with a value, as a line of a diagram gives them. -/
structure Directive where
  key : String
  value : String

namespace Directive

/-- The directive sets the field of a key. -/
def Sets (directive : Directive) (key : Key) (setting : Setting) : Prop :=
  normalizeKey directive.key.toList = key.name ∧ directive.value ≠ "default" ∧
    Means key directive.value setting

/-- The directive is one to follow: its key is known, and its value is `default` or one that the
key allows. -/
def Allowed (directive : Directive) : Prop :=
  ∃ key : Key, normalizeKey directive.key.toList = key.name ∧
    (directive.value = "default" ∨ ∃ setting, Means key directive.value setting)

/-- The directives differ in the spelling of the key only. -/
def Alike (first second : Directive) : Prop :=
  normalizeKey first.key.toList = normalizeKey second.key.toList ∧ first.value = second.value

/-- The settings after a directive; one that is refused leaves them as they are. -/
def follow (config : Config) (directive : Directive) : Config :=
  match config.apply directive.key directive.value with
  | .ok next => next
  | .error _ => config

/-- How a directive can come out. -/
inductive Outcome (directive : Directive) : Except Fault (Option Setting) → Prop where
  | refused {fault : Fault} (refused : ¬directive.Allowed) : Outcome directive (.error fault)
  | kept (allowed : directive.Allowed) (default : directive.value = "default") :
      Outcome directive (.ok none)
  | set {key : Key} {setting : Setting} (sets : directive.Sets key setting) :
      Outcome directive (.ok (some setting))

theorem outcome_directive (directive : Directive) :
    directive.Outcome (Config.directive directive.key directive.value) := by
  unfold Config.directive
  cases meant : Key.ofText? directive.key.toList with
  | none =>
      refine .refused fun ⟨key, known, _⟩ => ?_
      rw [Key.ofText?_eq_some_iff.mpr known] at meant
      cases meant
  | some key =>
      have known := Key.ofText?_eq_some_iff.mp meant
      by_cases default : directive.value = "default"
      · simp only [default, ↓reduceIte]
        exact .kept ⟨key, known, .inl default⟩ default
      · simp only [default, ↓reduceIte]
        cases read : key.read directive.value.toList with
        | ok setting => exact .set ⟨known, default, read_eq_ok_iff.mp read⟩
        | error expectation =>
            refine .refused fun ⟨other, otherKnown, allowed⟩ => ?_
            obtain rfl : key = other :=
              Option.some.inj (meant.symm.trans (Key.ofText?_eq_some_iff.mpr otherKnown))
            obtain ⟨setting, means⟩ := allowed.resolve_left default
            rw [read_eq_ok_iff.mpr means] at read
            cases read

variable {directive first second : Directive} {key : Key} {setting : Setting} {config : Config}

theorem Sets.allowed (sets : directive.Sets key setting) : directive.Allowed :=
  ⟨key, sets.1, .inr ⟨setting, sets.2.2⟩⟩

theorem directive_of_sets (sets : directive.Sets key setting) :
    Config.directive directive.key directive.value = .ok (some setting) := by
  obtain ⟨known, notDefault, means⟩ := sets
  unfold Config.directive
  simp only [Key.ofText?_eq_some_iff.mpr known, notDefault, ↓reduceIte, read_eq_ok_iff.mpr means]

/-- A directive is refused unless it is one to follow, whatever the settings are. -/
theorem refused_iff (config : Config) :
    (∃ fault, config.apply directive.key directive.value = .error fault) ↔ ¬directive.Allowed := by
  unfold Config.apply
  have outcome := outcome_directive directive
  generalize Config.directive directive.key directive.value = result at outcome
  cases outcome with
  | refused refused => simp [refused]
  | kept allowed => simp [allowed]
  | set sets => simp [sets.allowed]

theorem follow_of_sets (sets : directive.Sets key setting) :
    directive.follow config = config.set setting := by
  rw [follow, Config.apply, directive_of_sets sets]

theorem not_sets_of_refused (refused : ¬directive.Allowed) :
    ∀ key setting, ¬directive.Sets key setting :=
  fun _ _ sets => refused sets.allowed

/-- What sets no field changes nothing, be it refused or not. -/
theorem follow_of_not_sets (none : ∀ key setting, ¬directive.Sets key setting) :
    directive.follow config = config := by
  unfold follow Config.apply
  have outcome := outcome_directive directive
  generalize Config.directive directive.key directive.value = result at outcome
  cases outcome with
  | refused => rfl
  | kept => rfl
  | set sets => exact absurd sets (none _ _)

theorem get_follow_of_sets (sets : directive.Sets key setting) :
    (directive.follow config).get key = setting := by
  rw [follow_of_sets sets, get_set, if_pos sets.2.2.key]

theorem get_follow_of_not_sets (config : Config) (none : ∀ setting, ¬directive.Sets key setting) :
    (directive.follow config).get key = config.get key := by
  by_cases some : ∃ other setting, directive.Sets other setting
  · obtain ⟨other, setting, sets⟩ := some
    have different : setting.key ≠ key := by
      rintro rfl
      rw [sets.2.2.key] at none
      exact none setting sets
    rw [follow_of_sets sets, get_set, if_neg different]
  · push Not at some
    rw [follow_of_not_sets some]

theorem follow_comm
    (different : normalizeKey first.key.toList ≠ normalizeKey second.key.toList) :
    second.follow (first.follow config) = first.follow (second.follow config) := by
  by_cases firstSets : ∃ key setting, first.Sets key setting
  · by_cases secondSets : ∃ key setting, second.Sets key setting
    · obtain ⟨key, setting, sets⟩ := firstSets
      obtain ⟨otherKey, otherSetting, otherSets⟩ := secondSets
      have keys : setting.key ≠ otherSetting.key := by
        rw [sets.2.2.key, otherSets.2.2.key]
        rintro rfl
        exact different (sets.1.trans otherSets.1.symm)
      rw [follow_of_sets sets, follow_of_sets otherSets, follow_of_sets sets,
        follow_of_sets otherSets, set_comm config keys]
    · push Not at secondSets
      rw [follow_of_not_sets secondSets, follow_of_not_sets secondSets]
  · push Not at firstSets
    rw [follow_of_not_sets firstSets, follow_of_not_sets firstSets]

theorem apply_of_alike (alike : Alike first second) :
    config.apply first.key first.value = config.apply second.key second.value := by
  have keys : Key.ofText? first.key.toList = Key.ofText? second.key.toList := by
    rw [Key.ofText?, Key.ofText?, alike.1]
  rw [Config.apply, Config.apply, Config.directive, Config.directive, keys, alike.2]

theorem follow_valid (valid : config.Valid) : (directive.follow config).Valid := by
  by_cases some : ∃ key setting, directive.Sets key setting
  · obtain ⟨key, setting, sets⟩ := some
    rw [follow_of_sets sets]
    exact valid.set sets.2.2
  · push Not at some
    rwa [follow_of_not_sets some]

end Directive

def followAll (config : Config) (directives : List Directive) : Config :=
  directives.foldl (fun config directive => directive.follow config) config

variable {config : Config} {directives others : List Directive}

/-- Where a row of directives leaves the field of a key. -/
inductive Settled (key : Key) (directives : List Directive) (start final : Config) : Prop where
  | kept (none : ∀ directive ∈ directives, ∀ setting, ¬directive.Sets key setting)
      (field : final.get key = start.get key)
  | set {before after : List Directive} {directive : Directive} {setting : Setting}
      (row : directives = before ++ directive :: after) (sets : directive.Sets key setting)
      (last : ∀ later ∈ after, ∀ other, ¬later.Sets key other) (field : final.get key = setting)

theorem followAll_concat (config : Config) (directives : List Directive) (directive : Directive) :
    config.followAll (directives ++ [directive]) =
      directive.follow (config.followAll directives) := by
  rw [followAll, List.foldl_append]
  rfl

theorem settled_followAll (key : Key) (config : Config) (directives : List Directive) :
    Settled key directives config (config.followAll directives) := by
  induction directives using List.reverseRecOn with
  | nil => exact .kept (fun _ absent => absurd absent List.not_mem_nil) rfl
  | append_singleton directives directive inductionHypothesis =>
      rw [followAll_concat]
      by_cases some : ∃ setting, directive.Sets key setting
      · obtain ⟨setting, sets⟩ := some
        exact .set rfl sets (fun _ absent => absurd absent List.not_mem_nil)
          (Directive.get_follow_of_sets sets)
      · push Not at some
        have field := Directive.get_follow_of_not_sets (config.followAll directives) some
        have notLast : ∀ later ∈ [directive], ∀ setting, ¬later.Sets key setting :=
          List.forall_mem_singleton.mpr some
        cases inductionHypothesis with
        | kept none same =>
            exact .kept (List.forall_mem_append.mpr ⟨none, notLast⟩) (field.trans same)
        | @set before after earlier setting row sets last same =>
            have longer :
                directives ++ [directive] = before ++ earlier :: (after ++ [directive]) := by
              rw [row, List.append_assoc, List.cons_append]
            exact .set longer sets (List.forall_mem_append.mpr ⟨last, notLast⟩) (field.trans same)

theorem followAll_swap (before after : List Directive) {first second : Directive}
    (different : normalizeKey first.key.toList ≠ normalizeKey second.key.toList) :
    config.followAll (before ++ second :: first :: after) =
      config.followAll (before ++ first :: second :: after) := by
  simp only [followAll, List.foldl_append, List.foldl_cons]
  rw [Directive.follow_comm different]

theorem followAll_of_alike (alike : List.Forall₂ Directive.Alike directives others) :
    config.followAll others = config.followAll directives := by
  induction alike generalizing config with
  | nil => rfl
  | @cons first second _ _ headAlike _ inductionHypothesis =>
      have same : second.follow config = first.follow config := by
        rw [Directive.follow, Directive.follow, Directive.apply_of_alike headAlike]
      rw [followAll, List.foldl_cons, same]
      exact inductionHypothesis

theorem followAll_valid (valid : config.Valid) : (config.followAll directives).Valid := by
  induction directives generalizing config with
  | nil => exact valid
  | cons directive rest inductionHypothesis =>
      exact inductionHypothesis (Directive.follow_valid valid)

end Config

def Draft.configured (draft : Draft) (config : Config) : Draft :=
  { draft with diagram := { draft.diagram with config } }

namespace Builder

open Config (Directive)

/-- The draft after directives that were carried out in place one after the other, whichever of them
are refused. -/
def obey (number : Nat) (draft : Draft) (directives : List Directive) : Draft :=
  directives.foldl (fun draft directive =>
    (answer (configure number directive.key directive.value) draft).2) draft

theorem refused_configure_iff (number : Nat) (draft : Draft) (directive : Directive) :
    (∃ fault, (answer (configure number directive.key directive.value) draft).1 = .error fault) ↔
      ¬directive.Allowed := by
  rw [← Directive.refused_iff draft.diagram.config,
    performs_configure directive.key directive.value draft]
  dsimp only [Diagram.configure]
  cases draft.diagram.config.apply directive.key directive.value with
  | ok next => simp
  | error fault => cases fault <;> simp

theorem answer_configure (number : Nat) (draft : Draft) (directive : Directive) :
    (answer (configure number directive.key directive.value) draft).2 =
      draft.configured (directive.follow draft.diagram.config) := by
  rw [performs_configure directive.key directive.value draft, Directive.follow]
  dsimp only [Diagram.configure]
  cases draft.diagram.config.apply directive.key directive.value with
  | ok next => rfl
  | error fault => cases fault <;> rfl

theorem obey_eq (number : Nat) (draft : Draft) (directives : List Directive) :
    obey number draft directives =
      draft.configured (draft.diagram.config.followAll directives) := by
  induction directives generalizing draft with
  | nil => rfl
  | cons directive rest inductionHypothesis =>
      rw [obey, List.foldl_cons, answer_configure]
      exact inductionHypothesis _

/-- Directives are folded key by key: which are refused does not depend on the settings, a refused
one leaves the draft as it was, and every field ends as the last directive that sets it says. Neither
the order of directives for different keys nor the spelling of keys matters, and valid settings stay
valid. -/
theorem directives_fold_per_key (number : Nat) (draft : Draft) (directives : List Directive) :
    (∀ directive : Directive,
      ((∃ fault, (answer (configure number directive.key directive.value) draft).1 = .error fault) ↔
        ¬directive.Allowed) ∧
      (¬directive.Allowed →
        (answer (configure number directive.key directive.value) draft).2 = draft)) ∧
    (∃ final, obey number draft directives = draft.configured final ∧
      (∀ key, Config.Settled key directives draft.diagram.config final) ∧
      (draft.diagram.config.Valid → final.Valid)) ∧
    (∀ before first second after,
      Config.normalizeKey first.key.toList ≠ Config.normalizeKey second.key.toList →
      obey number draft (before ++ second :: first :: after) =
        obey number draft (before ++ first :: second :: after)) ∧
    (∀ others, List.Forall₂ Directive.Alike directives others →
      obey number draft others = obey number draft directives) := by
  refine ⟨fun directive => ⟨refused_configure_iff number draft directive, fun refused => ?_⟩,
    ⟨_, obey_eq number draft directives, fun key => Config.settled_followAll key _ directives,
      Config.followAll_valid⟩, fun before first second after different => ?_,
    fun others alike => ?_⟩
  · rw [answer_configure, Directive.follow_of_not_sets (Directive.not_sets_of_refused refused)]
    rfl
  · rw [obey_eq, obey_eq, Config.followAll_swap before after different]
  · rw [obey_eq, obey_eq, Config.followAll_of_alike alike]

/-- Directives of which the second and the third are refused and the last keeps the scale. -/
def strayDirectives : List Directive :=
  [⟨"TICK_width", "8e1"⟩, ⟨"scale", "1e-400"⟩, ⟨"tickWidth", "1e400"⟩, ⟨"legendFrequency", "+3"⟩,
    ⟨"scale", "default"⟩]

theorem strayDirectives_fold :
    let reached := obey 1 (Draft.blank Config.standard) strayDirectives
    reached.diagram.config.tickWidth = 80 ∧ reached.diagram.config.legendFrequency = 3 ∧
      reached.diagram.config.scale = 1 ∧ reached.diagram.config.Valid ∧
      obey 1 (Draft.blank Config.standard) (⟨"scale", "1e-400"⟩ :: ⟨"TICK_width", "8e1"⟩ ::
        strayDirectives.drop 2) = reached ∧
      obey 1 (Draft.blank Config.standard) (⟨"tickWidth", "8e1"⟩ :: strayDirectives.drop 1) =
        reached := by
  obtain ⟨_, ⟨final, ends, _, valid⟩, swapped, alike⟩ :=
    directives_fold_per_key 1 (Draft.blank Config.standard) strayDirectives
  have reachedValid := valid Config.standard_valid
  refine ⟨by decide +kernel, by decide +kernel, by decide +kernel, ?_, ?_, ?_⟩
  · rw [ends]
    exact reachedValid
  · exact swapped [] ⟨"TICK_width", "8e1"⟩ ⟨"scale", "1e-400"⟩ (strayDirectives.drop 2) (by decide)
  · refine alike _ (.cons ⟨by decide, rfl⟩ ?_)
    exact List.forall₂_same.mpr fun _ _ => ⟨rfl, rfl⟩

end Builder

end Chronogram
