import Chronogram.Proofs.CommandLine.Arguments
import Chronogram.Proofs.Svg.Identifier
import Mathlib.Data.List.Nodup

/-!
Groups of arguments.

An option and its value belong together; a command, a switch and a plain path stand alone. A group
is read without regard to the others, and it changes a part of the options that no group of another
kind touches. So groups of different kinds may be given in any order, whatever their values look
like. Only one path fits in.
-/

namespace Chronogram.CommandLine

open Text

def Command.word : Command → String
  | .render => "render"
  | .parse => "parse"
  | .process => "process"
  | .layout => "layout"

def PictureFormat.name : PictureFormat → String
  | .svg => "svg"
  | .png => "png"

def Switch.word : Switch → String
  | .pretty => "--pretty"
  | .strict => "--strict"
  | .debug => "--debug"

def Setting.word : Setting → String
  | .format => "--format"
  | .scale => "--scale"
  | .background => "--background"
  | .rootId => "--id"
  | .out => "--out"

/-- A path that needs no dashes in front: a single dash, or neither a command nor anything that
starts with a dash. -/
def Plain (path : String) : Prop :=
  path = "-" ∨ path.toList.head? ≠ some '-' ∧ ∀ command : Command, path ≠ command.word

namespace Word

/-- The one way to write a command, a switch or the name of a setting. -/
def spelling? : Word → Option String
  | .command task => some task.word
  | .switch flag => some flag.word
  | .setting name => some name.word
  | _ => none

variable {argument : String}

theorem argument_of_spelling? {word : Word} {spelling : String}
    (here : Word.ofArgument argument = word) (spelt : word.spelling? = some spelling) :
    argument = spelling := by
  have all : ∀ entry ∈ reservedWords, ∀ spelling ∈ entry.2.spelling?, entry.1 = spelling := by
    decide
  have known : word ≠ .unknown ∧ word ≠ .path := by
    constructor <;> (rintro rfl; cases spelt)
  exact all _ (Options.mem_reservedWords known.1 known.2 here) spelling spelt

theorem ofArgument_command (command : Command) : ofArgument command.word = .command command := by
  cases command <;> decide

theorem ofArgument_switch (switch : Switch) : ofArgument switch.word = .switch switch := by
  cases switch <;> decide

theorem ofArgument_setting (setting : Setting) : ofArgument setting.word = .setting setting := by
  cases setting <;> decide

/-- Whatever has a meaning of its own is a command or starts with a dash. -/
theorem dashed_of_mem_reservedWords {word : Word} (reserved : (argument, word) ∈ reservedWords) :
    argument.toList.head? = some '-' ∨ ∃ command : Command, argument = command.word := by
  have all : ∀ entry ∈ reservedWords, entry.1.toList.head? = some '-' ∨
      entry.1 ∈ [Command.render, .parse, .process, .layout].map Command.word := by decide
  refine (all _ reserved).imp_right fun listed => ?_
  obtain ⟨command, -, same⟩ := List.mem_map.mp listed
  exact ⟨command, same.symm⟩

theorem ofArgument_eq_path_iff : ofArgument argument = .path ↔ Plain argument := by
  constructor
  · intro word
    by_cases dash : argument = "-"
    · exact .inl dash
    · refine .inr ⟨fun dashed => ?_, fun command same => ?_⟩
      · unfold ofArgument at word
        split at word
        next found looked =>
          subst word
          obtain ⟨before, after, split, -⟩ := List.lookup_eq_some_iff.mp looked
          have reserved : (argument, Word.path) ∈ reservedWords := by simp [split]
          simp [reservedWords, dash] at reserved
        next => simp [dashed] at word
      · rw [same, ofArgument_command] at word
        cases word
  · rintro (rfl | ⟨undashed, other⟩)
    · decide
    · have unlisted : reservedWords.lookup argument = none := by
        refine List.lookup_eq_none_iff.mpr fun entry reserved => ?_
        rw [bne_iff_ne]
        rintro rfl
        rcases dashed_of_mem_reservedWords reserved with dashed | ⟨command, same⟩
        · exact undashed dashed
        · exact other command same
      simp only [ofArgument, unlisted, if_neg undashed]

end Word

inductive Group where
  | command (command : Command)
  | switch (switch : Switch)
  | setting (setting : Setting) (value : String)
  | path (path : String) (plain : Plain path)

/-- What a group is about. -/
inductive Kind where
  | command
  | switch (switch : Switch)
  | setting (setting : Setting)
  | path
  deriving DecidableEq

/-- The values of the part of the options that a kind has to itself. -/
def Kind.Part : Kind → Type
  | .command => Command
  | .switch _ => Bool
  | .setting .format => PictureFormat
  | .setting .scale => Number.Value
  | .setting .background | .setting .rootId | .setting .out | .path => Option String

def Kind.part (options : Options) : (kind : Kind) → kind.Part
  | .command => options.command
  | .switch .pretty => options.pretty
  | .switch .strict => options.strict
  | .switch .debug => options.debug
  | .setting .format => options.format
  | .setting .scale => options.scale
  | .setting .background => options.background
  | .setting .rootId => options.rootId
  | .setting .out => options.out
  | .path => options.input

theorem Options.ext_part {first second : Options}
    (same : ∀ kind : Kind, kind.part first = kind.part second) : first = second := by
  obtain ⟨command, input, pretty, strict, debug, format, scale, background, rootId, out⟩ := first
  obtain rfl : command = second.command := same .command
  obtain rfl : input = second.input := same .path
  obtain rfl : pretty = second.pretty := same (.switch .pretty)
  obtain rfl : strict = second.strict := same (.switch .strict)
  obtain rfl : debug = second.debug := same (.switch .debug)
  obtain rfl : format = second.format := same (.setting .format)
  obtain rfl : scale = second.scale := same (.setting .scale)
  obtain rfl : background = second.background := same (.setting .background)
  obtain rfl : rootId = second.rootId := same (.setting .rootId)
  obtain rfl : out = second.out := same (.setting .out)
  rfl

/-- What a group asks for, read. A blank background asks for nothing. -/
inductive Edit where
  | command (command : Command)
  | switch (switch : Switch)
  | format (format : PictureFormat)
  | scale (scale : Number.Value)
  | background (color : Option String)
  | rootId (id : String)
  | out (path : String)
  | input (path : String)

namespace Edit

def kind : Edit → Kind
  | .command _ => .command
  | .switch flag => .switch flag
  | .format _ => .setting .format
  | .scale _ => .setting .scale
  | .background _ => .setting .background
  | .rootId _ => .setting .rootId
  | .out _ => .setting .out
  | .input _ => .path

def onto (options : Options) : Edit → Options
  | .command task => { options with command := task }
  | .switch flag => options.switchOn flag
  | .format chosen => { options with format := chosen }
  | .scale factor => { options with scale := factor }
  | .background color => { options with background := color.or options.background }
  | .rootId id => { options with rootId := some id }
  | .out path => { options with out := some path }
  | .input path => { options with input := some path }

/-- Each kind has a part of the options to itself. -/
theorem onto_comm {first second : Edit} (apart : first.kind ≠ second.kind) (options : Options) :
    second.onto (first.onto options) = first.onto (second.onto options) := by
  cases first with
  | switch flag =>
      cases second with
      | switch other => cases flag <;> cases other <;> rfl
      | _ => cases flag <;> rfl
  | _ =>
      cases second with
      | switch other => cases other <;> rfl
      | _ => first | rfl | exact absurd rfl apart

theorem part_onto {edit : Edit} {kind : Kind} (other : edit.kind ≠ kind) (options : Options) :
    kind.part (edit.onto options) = kind.part options := by
  rcases kind with _ | (_ | _ | _) | (_ | _ | _ | _ | _) | _
  all_goals
    rcases edit with _ | (_ | _ | _) | _ | _ | _ | _ | _ | _
    all_goals first | rfl | exact absurd rfl other

theorem input_onto {edit : Edit} (other : edit.kind ≠ .path) (options : Options) :
    (edit.onto options).input = options.input :=
  part_onto other options

end Edit

theorem ofName?_eq_some_iff {text : List Char} {format : PictureFormat} :
    PictureFormat.ofName? text = some format ↔ asciiLower (trim text) = format.name.toList := by
  have apart : "svg".toList ≠ "png".toList := by decide
  unfold PictureFormat.ofName?
  dsimp only
  split_ifs with svg png
  · cases format <;> simp [svg, PictureFormat.name]
  · cases format <;> simp [png, PictureFormat.name]
  · cases format <;> simp_all [PictureFormat.name]

theorem isPositive_iff {value : Number.Value} : value.isPositive = true ↔
    ∃ mantissa exponent, 0 < mantissa ∧ value = .finite false mantissa exponent := by
  constructor
  · intro positive
    unfold Number.Value.isPositive at positive
    split at positive
    next mantissa exponent =>
      exact ⟨mantissa, exponent, Nat.pos_of_ne_zero (bne_iff_ne.mp positive), rfl⟩
    · cases positive
  · rintro ⟨mantissa, exponent, positive, rfl⟩
    exact bne_iff_ne.mpr positive.ne'

theorem scale?_eq_some_iff {value : String} {scale : Number.Value} :
    scale? value = some scale ↔
      Number.read? Number.Format.single value.toList = some scale ∧
        ∃ mantissa exponent, 0 < mantissa ∧ scale = .finite false mantissa exponent := by
  rw [scale?, Option.filter_eq_some_iff, isPositive_iff]

def Setting.edit? (setting : Setting) (value : String) : Option Edit :=
  match setting with
  | .format => (PictureFormat.ofName? value.toList).map .format
  | .scale => (scale? value).map .scale
  | .background =>
      let color := trim value.toList
      some (.background (if color.isEmpty then none else some (String.ofList color)))
  | .rootId => some (.rootId (Svg.Identifier.ofText value))
  | .out => some (.out value)

theorem Setting.kind_of_edit? {setting : Setting} {value : String} {edit : Edit}
    (read : setting.edit? value = some edit) : edit.kind = .setting setting := by
  cases setting with
  | format =>
      obtain ⟨format, -, rfl⟩ := Option.map_eq_some_iff.mp read
      rfl
  | scale =>
      obtain ⟨scale, -, rfl⟩ := Option.map_eq_some_iff.mp read
      rfl
  | background | rootId | out =>
      obtain rfl := Option.some.inj read
      rfl

namespace Options

/-- Make a change, unless it brings a second path. -/
def accept? (options : Options) (edit : Edit) : Option Options :=
  if edit.kind = .path ∧ options.input.isSome then none else some (edit.onto options)

variable {options : Options} {edit first second : Edit}

theorem accept?_of_ne (other : edit.kind ≠ .path) :
    options.accept? edit = some (edit.onto options) :=
  if_neg fun refused => other refused.1

/-- To use a value is to read it, whatever the options are, and then to change them. -/
theorem set?_eq (options : Options) (setting : Setting) (value : String) :
    options.set? setting value = (setting.edit? value).bind options.accept? := by
  cases setting with
  | format =>
      unfold set? Setting.edit?
      cases PictureFormat.ofName? value.toList <;> rfl
  | scale =>
      unfold set? Setting.edit?
      cases scale? value <;> rfl
  | background =>
      unfold set? Setting.edit?
      dsimp only
      split <;> rfl
  | rootId | out => rfl

theorem accept?_eq_some {next : Options} (accepted : options.accept? edit = some next) :
    next = edit.onto options ∧ (edit.kind = .path → options.input = none) := by
  unfold accept? at accepted
  split at accepted
  · cases accepted
  next admitted =>
    refine ⟨(Option.some.inj accepted).symm, fun path => ?_⟩
    exact Option.not_isSome_iff_eq_none.mp fun filled => admitted ⟨path, filled⟩

theorem addInput?_eq (options : Options) (path : String) :
    options.addInput? path = options.accept? (.input path) := by
  unfold addInput? accept?
  cases options.input <;> rfl

/-- A change that brings no path may as well be made later. -/
theorem accept?_bind (apart : first.kind ≠ second.kind) (other : second.kind ≠ .path)
    (options : Options) : (options.accept? first).bind (·.accept? second) =
      (options.accept? second).bind (·.accept? first) := by
  rw [accept?_of_ne other, Option.bind_some]
  unfold accept?
  rw [Edit.input_onto other]
  split
  · rfl
  · rw [Option.bind_some, if_neg fun refused => other refused.1, Edit.onto_comm apart]

theorem accept?_comm (apart : first.kind ≠ second.kind) (options : Options) :
    (options.accept? first).bind (·.accept? second) =
      (options.accept? second).bind (·.accept? first) := by
  by_cases other : second.kind = .path
  · exact (accept?_bind apart.symm (fun same => apart (same.trans other.symm)) options).symm
  · exact accept?_bind apart other options

end Options

namespace Group

def kind : Group → Kind
  | .command _ => .command
  | .switch flag => .switch flag
  | .setting name _ => .setting name
  | .path _ _ => .path

def arguments : Group → List String
  | .command task => [task.word]
  | .switch flag => [flag.word]
  | .setting name value => [name.word, value]
  | .path place _ => [place]

def edit? : Group → Option Edit
  | .command task => some (.command task)
  | .switch flag => some (.switch flag)
  | .setting name value => name.edit? value
  | .path place _ => some (.input place)

def changeBy? (options : Options) (group : Group) : Option Options :=
  group.edit?.bind options.accept?

def path? : Group → Option String
  | .path place _ => some place
  | _ => none

variable {options next : Options} {group first second : Group}

theorem kind_of_edit? {edit : Edit} (read : group.edit? = some edit) : edit.kind = group.kind := by
  cases group with
  | setting => exact Setting.kind_of_edit? read
  | command | switch | path =>
      obtain rfl := Option.some.inj read
      rfl

/-- A value that can be read, if there is one. -/
def Legible : Group → Prop
  | .setting .format value => ∃ format : PictureFormat,
      asciiLower (trim value.toList) = format.name.toList
  | .setting .scale value => ∃ mantissa exponent, 0 < mantissa ∧
      Number.read? Number.Format.single value.toList = some (.finite false mantissa exponent)
  | _ => True

/-- The options are as a group asks. -/
def Holds (options : Options) : Group → Prop
  | .command task => options.command = task
  | .switch flag => Kind.part options (.switch flag) = true
  | .setting .format value => asciiLower (trim value.toList) = options.format.name.toList
  | .setting .scale value =>
      Number.read? Number.Format.single value.toList = some options.scale ∧
        ∃ mantissa exponent, 0 < mantissa ∧ options.scale = .finite false mantissa exponent
  | .setting .background value =>
      options.background = if trim value.toList = [] then none
        else some (String.ofList (trim value.toList))
  | .setting .rootId value => options.rootId = some (Svg.Identifier.ofText value)
  | .setting .out value => options.out = some value
  | .path place _ => options.input = some place

theorem changeBy?_comm (apart : first.kind ≠ second.kind) (options : Options) :
    (changeBy? options first).bind (changeBy? · second) =
      (changeBy? options second).bind (changeBy? · first) := by
  unfold changeBy?
  cases readFirst : first.edit? with
  | none => simp
  | some edit =>
      cases readSecond : second.edit? with
      | none => simp
      | some other =>
          rw [← kind_of_edit? readFirst, ← kind_of_edit? readSecond] at apart
          exact Options.accept?_comm apart options

/-- A group is read at once, whatever its value looks like. -/
theorem readFrom?_arguments (group : Group) (options : Options) (rest : List String) :
    options.readFrom? (group.arguments ++ rest) =
      (changeBy? options group).bind (·.readFrom? rest) := by
  cases group with
  | command task =>
      simp only [arguments, List.singleton_append, Options.readFrom?, Word.ofArgument_command]
      rfl
  | switch flag =>
      simp only [arguments, List.singleton_append, Options.readFrom?, Word.ofArgument_switch]
      rfl
  | setting name value =>
      simp only [arguments, List.cons_append, List.nil_append, Options.readFrom?,
        Word.ofArgument_setting, Options.set?_eq]
      change _ = ((name.edit? value).bind options.accept?).bind _
      cases (name.edit? value).bind options.accept? <;> rfl
  | path place plain =>
      simp only [arguments, List.singleton_append, Options.readFrom?,
        Word.ofArgument_eq_path_iff.mpr plain, Options.addInput?_eq]
      change _ = (options.accept? (.input place)).bind _
      cases options.accept? (.input place) <;> rfl

def row (groups : List Group) : List String :=
  groups.flatMap arguments

def changeByAll? (options : Options) (groups : List Group) : Option Options :=
  groups.foldl (fun state group => state.bind (changeBy? · group)) (some options)

theorem foldl_none (groups : List Group) :
    groups.foldl (fun state group => state.bind (changeBy? · group)) none = none := by
  induction groups with
  | nil => rfl
  | cons group rest inductionHypothesis => exact inductionHypothesis

theorem changeByAll?_cons (options : Options) (group : Group) (rest : List Group) :
    changeByAll? options (group :: rest) =
      (changeBy? options group).bind (changeByAll? · rest) := by
  rw [changeByAll?, List.foldl_cons, Option.bind_some]
  cases changeBy? options group with
  | none => exact foldl_none rest
  | some changed => rfl

/-- A row of groups is read group by group. -/
theorem readFrom?_row (groups : List Group) (options : Options) (rest : List String) :
    options.readFrom? (row groups ++ rest) =
      (changeByAll? options groups).bind (·.readFrom? rest) := by
  induction groups generalizing options with
  | nil => rfl
  | cons group others inductionHypothesis =>
      rw [row, List.flatMap_cons, ← row, List.append_assoc, readFrom?_arguments, changeByAll?_cons,
        Option.bind_assoc]
      simp only [inductionHypothesis]

theorem readFrom?_row_nil (groups : List Group) (options : Options) :
    options.readFrom? (row groups) = changeByAll? options groups := by
  have whole := readFrom?_row groups options []
  rw [List.append_nil] at whole
  rw [whole]
  cases changeByAll? options groups <;> rfl

theorem changeByAll?_perm {groups others : List Group} (order : groups.Perm others)
    (apart : (groups.map kind).Nodup) (options : Options) :
    changeByAll? options groups = changeByAll? options others := by
  refine order.foldl_eq' (fun first here second there state => ?_) (some options)
  by_cases same : first = second
  · rw [same]
  · have different : first.kind ≠ second.kind := fun kinds =>
      same (List.inj_on_of_nodup_map apart here there kinds)
    rw [Option.bind_assoc, Option.bind_assoc]
    exact congrArg state.bind (funext (changeBy?_comm different))

theorem readFrom?_row_perm {groups others : List Group} (order : groups.Perm others)
    (apart : (groups.map kind).Nodup) (options : Options) :
    options.readFrom? (row groups) = options.readFrom? (row others) := by
  rw [readFrom?_row_nil, readFrom?_row_nil, changeByAll?_perm order apart]

/-! ### Accepted groups -/

theorem exists_edit?_of_legible (legible : group.Legible) : ∃ edit, group.edit? = some edit := by
  cases group with
  | command | switch | path => exact ⟨_, rfl⟩
  | setting name value =>
      cases name with
      | background | rootId | out => exact ⟨_, rfl⟩
      | format =>
          obtain ⟨format, named⟩ := legible
          exact ⟨_, Option.map_eq_some_iff.mpr ⟨format, ofName?_eq_some_iff.mpr named, rfl⟩⟩
      | scale =>
          obtain ⟨mantissa, exponent, positive, read⟩ := legible
          have accepted := scale?_eq_some_iff.mpr ⟨read, mantissa, exponent, positive, rfl⟩
          exact ⟨_, Option.map_eq_some_iff.mpr ⟨_, accepted, rfl⟩⟩

theorem legible_of_holds (holds : group.Holds options) : group.Legible := by
  cases group with
  | command | switch | path => trivial
  | setting name value =>
      cases name with
      | background | rootId | out => trivial
      | format => exact ⟨options.format, holds⟩
      | scale =>
          obtain ⟨read, mantissa, exponent, positive, scale⟩ := holds
          exact ⟨mantissa, exponent, positive, scale ▸ read⟩

theorem part_eq_of_holds (holds : group.Holds options) (holds' : group.Holds next) :
    group.kind.part options = group.kind.part next := by
  cases group with
  | command | switch | path => exact Eq.trans holds holds'.symm
  | setting name value =>
      cases name with
      | background | rootId | out => exact Eq.trans holds holds'.symm
      | scale => exact Option.some.inj (holds.1.symm.trans holds'.1)
      | format =>
          have same := ofName?_eq_some_iff.mpr holds
          exact Option.some.inj (same.symm.trans (ofName?_eq_some_iff.mpr holds'))

theorem holds_of_part_eq (same : group.kind.part next = group.kind.part options)
    (holds : group.Holds options) : group.Holds next := by
  cases group with
  | command | switch | path => exact Eq.trans same holds
  | setting name value =>
      cases name with
      | background | rootId | out => exact Eq.trans same holds
      | format =>
          have here : next.format = options.format := same
          rwa [Holds, here]
      | scale =>
          have here : next.scale = options.scale := same
          rwa [Holds, here]

theorem part_of_changeBy? (made : changeBy? options group = some next) {kind : Kind}
    (other : group.kind ≠ kind) : kind.part next = kind.part options := by
  obtain ⟨edit, read, accepted⟩ := Option.bind_eq_some_iff.mp made
  obtain ⟨rfl, -⟩ := Options.accept?_eq_some accepted
  apply Edit.part_onto
  rwa [kind_of_edit? read]

theorem holds_of_changeBy? (fresh : group.kind.part options = group.kind.part Options.standard)
    (made : changeBy? options group = some next) : group.Holds next := by
  obtain ⟨edit, read, accepted⟩ := Option.bind_eq_some_iff.mp made
  obtain ⟨rfl, -⟩ := Options.accept?_eq_some accepted
  cases group with
  | command | path =>
      obtain rfl := Option.some.inj read
      rfl
  | switch flag =>
      obtain rfl := Option.some.inj read
      cases flag <;> rfl
  | setting name value =>
      cases name with
      | rootId | out =>
          obtain rfl := Option.some.inj read
          rfl
      | format =>
          obtain ⟨format, named, rfl⟩ := Option.map_eq_some_iff.mp read
          exact ofName?_eq_some_iff.mp named
      | scale =>
          obtain ⟨scale, positive, rfl⟩ := Option.map_eq_some_iff.mp read
          exact scale?_eq_some_iff.mp positive
      | background =>
          have none : options.background = none := fresh
          obtain rfl := Option.some.inj read
          simp only [Holds, Edit.onto, none, Option.or_none, List.isEmpty_iff]

theorem exists_changeBy? (fresh : group.kind.part options = group.kind.part Options.standard)
    (legible : group.Legible) : ∃ next, changeBy? options group = some next := by
  obtain ⟨edit, read⟩ := exists_edit?_of_legible legible
  refine ⟨edit.onto options, ?_⟩
  rw [changeBy?, read, Option.bind_some, Options.accept?, if_neg]
  rintro ⟨path, filled⟩
  rw [← kind_of_edit? read, path] at fresh
  have empty : options.input = none := fresh
  simp [empty] at filled

theorem part_of_changeByAll? {groups : List Group} (made : changeByAll? options groups = some next)
    {kind : Kind} (other : kind ∉ groups.map Group.kind) :
    kind.part next = kind.part options := by
  induction groups generalizing options with
  | nil =>
      obtain rfl := Option.some.inj made
      rfl
  | cons group rest inductionHypothesis =>
      rw [changeByAll?_cons, Option.bind_eq_some_iff] at made
      obtain ⟨changed, first, others⟩ := made
      rw [List.map_cons, List.mem_cons, not_or] at other
      rw [inductionHypothesis others other.2, part_of_changeBy? first (Ne.symm other.1)]

theorem fresh_of_changeBy? {rest : List Group} (apart : ((group :: rest).map kind).Nodup)
    (fresh : ∀ other ∈ group :: rest,
      other.kind.part options = other.kind.part Options.standard)
    (made : changeBy? options group = some next) :
    ∀ other ∈ rest, other.kind.part next = other.kind.part Options.standard := by
  intro other inside
  have different : group.kind ≠ other.kind := fun same =>
    (List.nodup_cons.mp apart).1 (same ▸ List.mem_map_of_mem inside)
  rw [part_of_changeBy? made different, fresh other (List.mem_cons_of_mem _ inside)]

theorem holds_of_changeByAll? {groups : List Group} (apart : (groups.map kind).Nodup)
    (fresh : ∀ group ∈ groups, group.kind.part options = group.kind.part Options.standard)
    (made : changeByAll? options groups = some next) : ∀ group ∈ groups, group.Holds next := by
  induction groups generalizing options with
  | nil => nofun
  | cons group rest inductionHypothesis =>
      rw [changeByAll?_cons, Option.bind_eq_some_iff] at made
      obtain ⟨changed, first, others⟩ := made
      have here := holds_of_changeBy? (fresh group List.mem_cons_self) first
      have kept := part_of_changeByAll? others (List.nodup_cons.mp apart).1
      refine List.forall_mem_cons.mpr ⟨holds_of_part_eq kept here, ?_⟩
      exact inductionHypothesis (List.nodup_cons.mp apart).2
        (fresh_of_changeBy? apart fresh first) others

theorem exists_changeByAll? {groups : List Group} (apart : (groups.map kind).Nodup)
    (fresh : ∀ group ∈ groups, group.kind.part options = group.kind.part Options.standard)
    (legible : ∀ group ∈ groups, group.Legible) :
    ∃ next, changeByAll? options groups = some next := by
  induction groups generalizing options with
  | nil => exact ⟨options, rfl⟩
  | cons group rest inductionHypothesis =>
      obtain ⟨here, others⟩ := List.forall_mem_cons.mp legible
      obtain ⟨changed, first⟩ := exists_changeBy? (fresh group List.mem_cons_self) here
      rw [changeByAll?_cons, first, Option.bind_some]
      exact inductionHypothesis (List.nodup_cons.mp apart).2
        (fresh_of_changeBy? apart fresh first) others

/-- Groups of different kinds are accepted exactly if all of them can be read. -/
theorem isSome_read?_row_iff {groups : List Group} (apart : (groups.map kind).Nodup) :
    (Options.read? (row groups)).isSome ↔ ∀ group ∈ groups, group.Legible := by
  rw [Options.read?, readFrom?_row_nil, Option.isSome_iff_exists]
  constructor
  · rintro ⟨next, made⟩ group inside
    exact legible_of_holds (holds_of_changeByAll? apart (fun _ _ => rfl) made group inside)
  · exact exists_changeByAll? apart fun _ _ => rfl

/-- They come to the options that are as they ask and are standard in every other part. -/
theorem read?_row_eq_some_iff {groups : List Group} (apart : (groups.map kind).Nodup) :
    Options.read? (row groups) = some options ↔ (∀ group ∈ groups, group.Holds options) ∧
      ∀ kind ∉ groups.map Group.kind, kind.part options = kind.part Options.standard := by
  rw [Options.read?, readFrom?_row_nil]
  constructor
  · intro made
    exact ⟨holds_of_changeByAll? apart (fun _ _ => rfl) made,
      fun _ other => part_of_changeByAll? made other⟩
  · rintro ⟨holds, others⟩
    obtain ⟨next, made⟩ := exists_changeByAll? apart (fun _ _ => rfl)
      fun group inside => legible_of_holds (holds group inside)
    rw [made]
    apply congrArg some
    apply Options.ext_part
    intro kind
    by_cases asked : kind ∈ groups.map Group.kind
    · obtain ⟨group, inside, rfl⟩ := List.mem_map.mp asked
      exact part_eq_of_holds (holds_of_changeByAll? apart (fun _ _ => rfl) made group inside)
        (holds group inside)
    · rw [part_of_changeByAll? made asked, others kind asked]

/-! ### Paths -/

/-- The input is the earlier one or the path of the group, and there is no room for both. -/
theorem input_of_changeBy? (made : changeBy? options group = some next) :
    next.input.toList = options.input.toList ++ group.path?.toList := by
  obtain ⟨edit, read, accepted⟩ := Option.bind_eq_some_iff.mp made
  obtain ⟨rfl, free⟩ := Options.accept?_eq_some accepted
  cases group with
  | path place plain =>
      obtain rfl := Option.some.inj read
      rw [free rfl]
      rfl
  | command | switch | setting =>
      have other : edit.kind ≠ .path := by
        rw [kind_of_edit? read]
        nofun
      rw [Edit.input_onto other]
      exact (List.append_nil _).symm

theorem input_of_changeByAll? {groups : List Group}
    (made : changeByAll? options groups = some next) :
    next.input.toList = options.input.toList ++ groups.filterMap path? := by
  induction groups generalizing options with
  | nil =>
      obtain rfl := Option.some.inj made
      exact (List.append_nil _).symm
  | cons group rest inductionHypothesis =>
      rw [changeByAll?_cons, Option.bind_eq_some_iff] at made
      obtain ⟨changed, first, others⟩ := made
      rw [inductionHypothesis others, input_of_changeBy? first, List.append_assoc]
      cases path : group.path? <;> simp [path]

theorem input_of_readPath? {tail : List String} (read : options.readPath? tail = some next) :
    next.input.toList = options.input.toList ++ tail := by
  unfold Options.readPath? at read
  split at read
  · obtain rfl := Option.some.inj read
    exact (List.append_nil _).symm
  next path =>
    rw [Options.addInput?_eq] at read
    obtain ⟨rfl, free⟩ := Options.accept?_eq_some read
    rw [free rfl]
    rfl
  · cases read

theorem readFrom?_separator (options : Options) (tail : List String) :
    options.readFrom? ("--" :: tail) = options.readPath? tail := by
  have word : Word.ofArgument "--" = .separator := by decide
  rw [Options.readFrom?]
  simp only [word]

theorem readFrom?_row_of_two {groups : List Group} (two : 2 ≤ (groups.filterMap path?).length)
    (options : Options) (rest : List String) : options.readFrom? (row groups ++ rest) = none := by
  rw [readFrom?_row]
  cases made : changeByAll? options groups with
  | none => rfl
  | some changed =>
      have paths := congrArg List.length (input_of_changeByAll? made)
      have one := changed.input.length_toList_le
      rw [List.length_append] at paths
      omega

/-- Behind two dashes a path is refused if there is an earlier one or another argument. -/
theorem readFrom?_row_separator {groups : List Group} {path : String} {rest : List String}
    (second : groups.filterMap path? ≠ [] ∨ rest ≠ []) (options : Options) :
    options.readFrom? (row groups ++ "--" :: path :: rest) = none := by
  rw [readFrom?_row]
  cases made : changeByAll? options groups with
  | none => rfl
  | some changed =>
      rw [Option.bind_some, readFrom?_separator]
      cases read : changed.readPath? (path :: rest) with
      | none => rfl
      | some final =>
          have paths := congrArg List.length (input_of_readPath? read)
          have one := final.input.length_toList_le
          rw [input_of_changeByAll? made, List.length_append, List.length_append,
            List.length_cons] at paths
          rcases second with earlier | another
          · have := List.length_pos_of_ne_nil earlier
            omega
          · have := List.length_pos_of_ne_nil another
            omega

theorem readFrom?_row_path (groups : List Group) (options : Options) (path : String) :
    options.readFrom? (row groups ++ ["--", path]) =
      (changeByAll? options groups).bind (·.accept? (.input path)) := by
  simp only [readFrom?_row, readFrom?_separator, Options.readPath?, Options.addInput?_eq]

/-- A plain path means the same behind two dashes at the end. -/
theorem readFrom?_path_last {groups : List Group} {path : String} {plain : Plain path}
    (apart : ((Group.path path plain :: groups).map kind).Nodup) (options : Options) :
    options.readFrom? (row groups ++ ["--", path]) =
      options.readFrom? (row (.path path plain :: groups)) := by
  have last : changeByAll? options (groups ++ [.path path plain]) =
      (changeByAll? options groups).bind (·.accept? (.input path)) := List.foldl_append ..
  rw [readFrom?_row_path, ← last, ← readFrom?_row_nil]
  exact (readFrom?_row_perm (List.perm_append_singleton _ groups).symm apart options).symm

/-- Behind two dashes every text is a path, if there is none before. -/
theorem readFrom?_row_any_path {groups : List Group} (pathless : groups.filterMap path? = [])
    {options : Options} (free : options.input = none) (path : String) :
    options.readFrom? (row groups ++ ["--", path]) =
      (options.readFrom? (row groups)).map ({ · with input := some path }) := by
  rw [readFrom?_row_path, readFrom?_row_nil]
  cases made : changeByAll? options groups with
  | none => rfl
  | some changed =>
      have empty : changed.input = none := by
        simpa [pathless, free] using input_of_changeByAll? made
      rw [Option.bind_some, Options.accept?, if_neg (by simp [empty])]
      rfl

/-! ### Every accepted row of arguments -/

/-- Accepted arguments are a row of groups, maybe with two dashes and a path at the end. -/
theorem exists_row_of_readFrom? {arguments : List String}
    (read : options.readFrom? arguments = some next) : ∃ groups tail,
      arguments = row groups ++ tail ∧ (tail = [] ∨ ∃ paths, tail = "--" :: paths) := by
  fun_induction Options.readFrom? options arguments with
  | case1 => exact ⟨[], [], rfl, .inl rfl⟩
  | case2 | case3 | case6 | case8 | case11 => cases read
  | case4 options argument rest command word inductionHypothesis =>
      obtain ⟨groups, tail, rfl, shape⟩ := inductionHypothesis read
      obtain rfl := Word.argument_of_spelling? word rfl
      exact ⟨.command command :: groups, tail, rfl, shape⟩
  | case5 options argument rest switch word inductionHypothesis =>
      obtain ⟨groups, tail, rfl, shape⟩ := inductionHypothesis read
      obtain rfl := Word.argument_of_spelling? word rfl
      exact ⟨.switch switch :: groups, tail, rfl, shape⟩
  | case7 options argument setting word value rest changed given inductionHypothesis =>
      obtain ⟨groups, tail, rfl, shape⟩ := inductionHypothesis read
      obtain rfl := Word.argument_of_spelling? word rfl
      exact ⟨.setting setting value :: groups, tail, rfl, shape⟩
  | case9 options argument rest word =>
      obtain rfl := Options.argument_of_separator word
      exact ⟨[], "--" :: rest, rfl, .inr ⟨rest, rfl⟩⟩
  | case10 options argument rest word changed given inductionHypothesis =>
      obtain ⟨groups, tail, rfl, shape⟩ := inductionHypothesis read
      have plain := Word.ofArgument_eq_path_iff.mp word
      exact ⟨.path argument plain :: groups, tail, rfl, shape⟩

theorem input_of_read? {arguments : List String} (read : Options.read? arguments = some options) :
    ∃ groups tail, arguments = row groups ++ tail ∧ (tail = [] ∨ ∃ paths, tail = "--" :: paths) ∧
      options.input.toList = groups.filterMap path? ++ tail.tail := by
  obtain ⟨groups, tail, rfl, shape⟩ := exists_row_of_readFrom? read
  refine ⟨groups, tail, rfl, shape, ?_⟩
  rw [Options.read?, readFrom?_row, Option.bind_eq_some_iff] at read
  obtain ⟨changed, made, rest⟩ := read
  have earlier : changed.input.toList = groups.filterMap path? := input_of_changeByAll? made
  rcases shape with rfl | ⟨paths, rfl⟩
  · obtain rfl := Option.some.inj rest
    simpa using earlier
  · rw [readFrom?_separator] at rest
    rw [input_of_readPath? rest, earlier, List.tail_cons]

end Group

/-! ### The scale -/

section Scale

variable {options next : Options}

theorem isPositive_onto {edit : Edit} (own : ∀ scale, edit = .scale scale → scale.isPositive = true)
    (positive : options.scale.isPositive = true) :
    (edit.onto options).scale.isPositive = true := by
  cases edit with
  | scale scale => exact own scale rfl
  | switch flag => cases flag <;> exact positive
  | command | format | background | rootId | out | input => exact positive

theorem isPositive_of_edit? {setting : Setting} {value : String} {scale : Number.Value}
    (read : setting.edit? value = some (.scale scale)) : scale.isPositive = true := by
  cases setting with
  | scale =>
      obtain ⟨value, accepted, same⟩ := Option.map_eq_some_iff.mp read
      obtain rfl := Edit.scale.inj same
      exact (Option.filter_eq_some_iff.mp accepted).2
  | format =>
      obtain ⟨format, -, same⟩ := Option.map_eq_some_iff.mp read
      cases same
  | background | rootId | out => cases read

theorem isPositive_accept? {edit : Edit} (accepted : options.accept? edit = some next)
    (own : ∀ scale, edit = .scale scale → scale.isPositive = true)
    (positive : options.scale.isPositive = true) : next.scale.isPositive = true := by
  obtain ⟨rfl, -⟩ := Options.accept?_eq_some accepted
  exact isPositive_onto own positive

theorem isPositive_addInput? {path : String} (added : options.addInput? path = some next)
    (positive : options.scale.isPositive = true) : next.scale.isPositive = true :=
  isPositive_accept? ((Options.addInput?_eq options path).symm.trans added)
    (fun _ same => nomatch same) positive

theorem isPositive_readFrom? {arguments : List String}
    (read : options.readFrom? arguments = some next)
    (positive : options.scale.isPositive = true) : next.scale.isPositive = true := by
  fun_induction Options.readFrom? options arguments with
  | case1 =>
      obtain rfl := Option.some.inj read
      exact positive
  | case2 | case3 | case6 | case8 | case11 => cases read
  | case4 options argument rest command word inductionHypothesis =>
      exact inductionHypothesis read positive
  | case5 options argument rest switch word inductionHypothesis =>
      refine inductionHypothesis read ?_
      cases switch <;> exact positive
  | case7 options argument setting word value rest changed given inductionHypothesis =>
      rw [Options.set?_eq] at given
      obtain ⟨edit, readValue, accepted⟩ := Option.bind_eq_some_iff.mp given
      refine inductionHypothesis read (isPositive_accept? accepted (fun scale same => ?_) positive)
      exact isPositive_of_edit? (same ▸ readValue)
  | case9 options argument rest word =>
      unfold Options.readPath? at read
      split at read
      · obtain rfl := Option.some.inj read
        exact positive
      · exact isPositive_addInput? read positive
      · cases read
  | case10 options argument rest word changed given inductionHypothesis =>
      exact inductionHypothesis read (isPositive_addInput? given positive)

end Scale

/-- Groups of different kinds may be given in any order, whatever their values look like, and the
path as well behind two dashes at the end, where any text is a path. They are accepted exactly if
every format and every scale among them can be read, and come to the options that they ask for.
Accepted options have a finite scale above zero and an id that is an identifier already, and there
is never more than one path. -/
theorem groups_may_change_places :
    (∀ groups others : List Group, groups.Perm others → (groups.map Group.kind).Nodup →
      Options.read? (Group.row groups) = Options.read? (Group.row others)) ∧
    (∀ groups : List Group, (groups.map Group.kind).Nodup →
      ((Options.read? (Group.row groups)).isSome ↔ ∀ group ∈ groups, group.Legible)) ∧
    (∀ (groups : List Group) (options : Options), (groups.map Group.kind).Nodup →
      (Options.read? (Group.row groups) = some options ↔
        (∀ group ∈ groups, group.Holds options) ∧
          ∀ kind ∉ groups.map Group.kind, kind.part options = kind.part Options.standard)) ∧
    (∀ groups path plain, ((Group.path path plain :: groups).map Group.kind).Nodup →
      Options.read? (Group.row groups ++ ["--", path]) =
        Options.read? (Group.row (.path path plain :: groups))) ∧
    (∀ groups path, groups.filterMap Group.path? = [] →
      Options.read? (Group.row groups ++ ["--", path]) =
        (Options.read? (Group.row groups)).map ({ · with input := some path })) ∧
    (∀ path, Options.read? ["--", path] = some { Options.standard with input := some path }) ∧
    (∀ arguments options, Options.read? arguments = some options →
      (∃ mantissa exponent, options.scale = .finite false mantissa exponent ∧ 0 < mantissa) ∧
      (∀ id ∈ options.rootId, Svg.Identifier.ofText id = id) ∧
      ∃ groups tail, arguments = Group.row groups ++ tail ∧
        (tail = [] ∨ ∃ paths, tail = "--" :: paths) ∧
        options.input.toList = groups.filterMap Group.path? ++ tail.tail) ∧
    (∀ groups rest, 2 ≤ (groups.filterMap Group.path?).length →
      Options.read? (Group.row groups ++ rest) = none) ∧
    ∀ groups path rest, groups.filterMap Group.path? ≠ [] ∨ rest ≠ [] →
      Options.read? (Group.row groups ++ "--" :: path :: rest) = none := by
  refine ⟨fun groups others order apart => ?_, fun groups apart => ?_,
    fun groups options apart => ?_, fun groups path plain apart => ?_,
    fun groups path pathless => ?_, fun path => ?_,
    fun arguments options read => ⟨?_, fun id given => ?_, ?_⟩,
    fun groups rest two => ?_, fun groups path rest second => ?_⟩
  · exact Group.readFrom?_row_perm order apart Options.standard
  · exact Group.isSome_read?_row_iff apart
  · exact Group.read?_row_eq_some_iff apart
  · exact Group.readFrom?_path_last apart Options.standard
  · exact Group.readFrom?_row_any_path pathless rfl path
  · exact @Group.readFrom?_row_any_path [] rfl Options.standard rfl path
  · obtain ⟨mantissa, exponent, positive, scale⟩ :=
      isPositive_iff.mp (isPositive_readFrom? read rfl)
    exact ⟨mantissa, exponent, scale, positive⟩
  · obtain ⟨before, raw, after, -, rfl⟩ := Options.identifies_read? read id given
    exact Svg.Identifier.ofText_of_canonical (Svg.Identifier.canonical_ofText raw)
  · exact Group.input_of_read? read
  · exact Group.readFrom?_row_of_two two Options.standard rest
  · exact Group.readFrom?_row_separator second Options.standard

/-- Groups whose values look like other arguments. -/
def thornyGroups : List Group :=
  [.setting .rootId "--", .setting .out "parse", .path "-" (.inl rfl), .switch .strict,
    .setting .format " PNG ", .setting .scale "2.5"]

/-- They are accepted in either order, and a question for help behind two dashes is a path. -/
theorem thornyGroups_may_change_places :
    Group.row thornyGroups =
      ["--id", "--", "--out", "parse", "-", "--strict", "--format", " PNG ", "--scale", "2.5"] ∧
    Options.read? (Group.row thornyGroups.reverse) = Options.read? (Group.row thornyGroups) ∧
    (∃ options, Options.read? (Group.row thornyGroups) = some options ∧
      options.rootId = some "t-untitled" ∧ options.out = some "parse" ∧
      options.input = some "-" ∧ options.strict = true ∧ options.format = .png ∧
      options.command = .render) ∧
    Options.read? ["--", "--help"] = some { Options.standard with input := some "--help" } := by
  obtain ⟨reorder, accepted, comesTo, -, -, dashes, -⟩ := groups_may_change_places
  have apart : (thornyGroups.map Group.kind).Nodup := by decide
  have legible : ∀ group ∈ thornyGroups, group.Legible := by
    simp only [thornyGroups, List.mem_cons, List.not_mem_nil, or_false, forall_eq_or_imp, forall_eq]
    exact ⟨trivial, trivial, trivial, trivial, ⟨.png, by decide +kernel⟩, 10485760, -22,
      by decide, by decide +kernel⟩
  obtain ⟨options, read⟩ := Option.isSome_iff_exists.mp ((accepted thornyGroups apart).mpr legible)
  obtain ⟨holds, others⟩ := (comesTo thornyGroups options apart).mp read
  simp only [thornyGroups, List.mem_cons, List.not_mem_nil, or_false, forall_eq_or_imp, forall_eq]
    at holds
  obtain ⟨rootId, out, input, strict, format, -⟩ := holds
  have identifier : Svg.Identifier.ofText "--" = "t-untitled" := by decide +kernel
  have png : PictureFormat.ofName? " PNG ".toList = some .png := by decide +kernel
  refine ⟨rfl, reorder _ _ (List.reverse_perm _) ?_, ⟨options, read, identifier ▸ rootId, out,
    input, strict, ?_, others .command (by decide)⟩, dashes "--help"⟩
  · decide
  · exact Option.some.inj ((ofName?_eq_some_iff.mpr format).symm.trans png)

end Chronogram.CommandLine
