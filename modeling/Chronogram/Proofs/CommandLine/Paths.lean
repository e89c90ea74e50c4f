import Chronogram.CommandLine.Files
import Chronogram.Proofs.Text.Row
import Mathlib.Data.List.TakeWhile

/-!
The last name of a path.

Behind its last name a path may have slashes and single dots that lead nowhere. A new extension
changes that name alone: the last extension is replaced, or one is added. So the new path leads from
the same directory to the changed name. A path whose last step is dots leads to a directory, and so
does one that keeps only dots.
-/

namespace Chronogram.CommandLine

namespace Path

/-! ### Extensions -/

/-- A name with another last extension. The dot in front of a hidden name starts no extension. -/
inductive Extended (ext : List Char) : List Char → List Char → Prop where
  | replaced (base old : List Char) (named : base ≠ []) (last : '.' ∉ old) :
      Extended ext (base ++ '.' :: old) (base ++ '.' :: ext)
  | added (name : List Char) (bare : ∀ base old, base ≠ [] → name ≠ base ++ '.' :: old) :
      Extended ext name (name ++ '.' :: ext)

theorem stem_split {base old : List Char} (last : '.' ∉ old) :
    stem (base ++ '.' :: old) = if base = [] then '.' :: old else base := by
  have passed : ∀ c ∈ old.reverse, decide (c ≠ '.') = true := fun c inside =>
    decide_eq_true (ne_of_mem_of_not_mem (List.mem_reverse.mp inside) last)
  have dot : (base ++ '.' :: old).reverse.dropWhile (fun c => decide (c ≠ '.')) =
      '.' :: base.reverse := by
    rw [List.reverse_append, List.reverse_cons, List.append_assoc,
      List.dropWhile_append_of_pos passed]
    rfl
  unfold stem
  dsimp only
  rw [dot]
  cases base <;> simp

theorem stem_of_not_mem {name : List Char} (dotless : '.' ∉ name) : stem name = name := by
  have none : name.reverse.dropWhile (fun c => decide (c ≠ '.')) = [] :=
    List.dropWhile_eq_nil_iff.mpr fun c inside =>
      decide_eq_true (ne_of_mem_of_not_mem (List.mem_reverse.mp inside) dotless)
  unfold stem
  dsimp only
  rw [none]

/-- Every name without a dot, or with a dot behind which there is no other. -/
theorem exists_last_dot {name : List Char} (dotted : '.' ∈ name) :
    ∃ base old, name = base ++ '.' :: old ∧ '.' ∉ old := by
  obtain ⟨old, base, split, first⟩ := List.eq_append_cons_of_mem (List.mem_reverse.mpr dotted)
  refine ⟨base.reverse, old.reverse, ?_, fun inside => first (List.mem_reverse.mp inside)⟩
  rw [← List.reverse_reverse name, split]
  simp

theorem extended_stem (ext name : List Char) : Extended ext name (stem name ++ '.' :: ext) := by
  by_cases dotted : '.' ∈ name
  · obtain ⟨base, old, rfl, last⟩ := exists_last_dot dotted
    rw [stem_split last]
    split
    next hidden =>
      subst hidden
      refine .added ('.' :: old) fun other behind named same => ?_
      obtain ⟨c, rest, rfl⟩ := List.exists_cons_of_ne_nil named
      obtain ⟨-, rfl⟩ := List.cons.inj same
      simp at last
    next named => exact .replaced base old named last
  · rw [stem_of_not_mem dotted]
    refine .added name fun base old named same => dotted ?_
    rw [same]
    exact List.mem_append_right base List.mem_cons_self

/-- A name keeps its extension exactly if it has the new one already. -/
theorem Extended.eq_iff {ext name next : List Char} (extended : Extended ext name next)
    (dotless : '.' ∉ ext) : next = name ↔ ∃ base, base ≠ [] ∧ name = base ++ '.' :: ext := by
  cases extended with
  | replaced base old named last =>
      constructor
      · intro same
        exact ⟨base, named, same.symm⟩
      · rintro ⟨other, named', same⟩
        have stems := congrArg stem same
        rw [stem_split last, stem_split dotless, if_neg named, if_neg named'] at stems
        rw [same, stems]
  | added name bare =>
      constructor
      · intro same
        simp at same
      · rintro ⟨base, named, same⟩
        exact absurd same (bare base ext named)

theorem Extended.single {ext name next : List Char} (extended : Extended ext name next)
    (single : '/' ∉ name) (plain : '/' ∉ ext) : '/' ∉ next := by
  cases extended <;> simp_all

theorem Extended.exists_not_dot {ext name next : List Char} (extended : Extended ext name next)
    (extending : ext ≠ []) (plain : '.' ∉ ext) : ∃ c ∈ next, c ≠ '.' := by
  obtain ⟨c, rest, rfl⟩ := List.exists_cons_of_ne_nil extending
  refine ⟨c, ?_, (List.ne_of_not_mem_cons plain).symm⟩
  cases extended <;> simp

/-! ### The last name of a path -/

/-- Slashes and single dots behind the last name of a path, which lead nowhere. -/
inductive Idle : List Char → Prop where
  | none : Idle []
  | slash (rest : List Char) (idle : Idle rest) : Idle ('/' :: rest)
  | dot (rest : List Char) (idle : Idle rest) : Idle ('/' :: '.' :: rest)

theorem Idle.append {first second : List Char} (idle : Idle first) (idle' : Idle second) :
    Idle (first ++ second) := by
  induction idle with
  | none => exact idle'
  | slash rest _ inductionHypothesis => exact .slash _ inductionHypothesis
  | dot rest _ inductionHypothesis => exact .dot _ inductionHypothesis

theorem exists_split_dropTrailing {fuel : Nat} {reversed : List Char}
    (enough : reversed.length ≤ fuel) : ∃ idle, Idle idle ∧
      reversed = idle.reverse ++ dropTrailing fuel reversed ∧
      (dropTrailing fuel reversed).head? ≠ some '/' := by
  induction fuel generalizing reversed with
  | zero =>
      obtain rfl := List.length_eq_zero_iff.mp (Nat.le_zero.mp enough)
      exact ⟨[], .none, rfl, nofun⟩
  | succ fuel inductionHypothesis =>
      unfold dropTrailing
      split
      next rest =>
        obtain ⟨idle, leads, split, ends⟩ := inductionHypothesis (Nat.le_of_succ_le_succ enough)
        refine ⟨idle ++ ['/'], leads.append (.slash [] .none), ?_, ends⟩
        simpa using split
      next rest =>
        have shorter : rest.length ≤ fuel := by
          simp only [List.length_cons] at enough
          omega
        obtain ⟨idle, leads, split, ends⟩ := inductionHypothesis shorter
        refine ⟨idle ++ ['/', '.'], leads.append (.dot [] .none), ?_, ends⟩
        simpa using split
      next notSlash _ =>
        refine ⟨[], .none, rfl, fun first => ?_⟩
        obtain ⟨rest, rfl⟩ := List.head?_eq_some_iff.mp first
        exact notSlash rest rfl

/-- A path cut around its last name. -/
structure Parts (path : String) (front name idle : List Char) : Prop where
  whole : path.toList = front ++ name ++ idle
  outer : front = [] ∨ ∃ before, front = before ++ ['/']
  single : '/' ∉ name
  named : name = [] → front = []
  idle : Idle idle

theorem exists_parts (path : String) : ∃ front name idle, Parts path front name idle ∧
    ∀ ext, withExtension path ext =
      if name = [] ∨ name = ['.'] ∨ name = ['.', '.'] then path
      else if stem name = ['.'] then String.ofList (front ++ ['.', '.'])
      else String.ofList (front ++ stem name ++ '.' :: ext.toList) := by
  have enough : path.toList.reverse.length ≤ path.length := by
    rw [List.length_reverse, String.length_toList]
  obtain ⟨idle, leads, split, ends⟩ := exists_split_dropTrailing enough
  unfold withExtension
  dsimp only
  generalize dropTrailing path.length path.toList.reverse = reversed at split ends
  refine ⟨_, (reversed.takeWhile (· ≠ '/')).reverse, idle, ⟨?_, ?_, ?_, ?_, leads⟩,
    fun ext => rfl⟩
  · rw [← List.reverse_append, List.takeWhile_append_dropWhile, ← List.reverse_reverse idle,
      ← List.reverse_append, ← split, List.reverse_reverse]
  · cases behind : reversed.dropWhile (· ≠ '/') with
    | nil => exact .inl rfl
    | cons c rest =>
        have stopped := Text.startsOutside_dropWhile (fun c => decide (c ≠ '/')) reversed
        have slash : c = '/' := by simpa using stopped c (by rw [behind]; rfl)
        exact .inr ⟨rest.reverse, by rw [List.reverse_cons, slash]⟩
  · intro inside
    have passed := List.mem_takeWhile_imp (List.mem_reverse.mp inside)
    simp at passed
  · intro none
    have first : reversed.takeWhile (· ≠ '/') = [] := List.reverse_eq_nil_iff.mp none
    cases reversed with
    | nil => rfl
    | cons c rest =>
        have other : c ≠ '/' := fun slash => ends (by rw [slash]; rfl)
        simp [other] at first

/-! ### Steps -/

/-- The steps that a part of a path takes. -/
def stepsIn (text : List Char) : List (List Char) :=
  (namesFrom [] text).filter (· ≠ [])

theorem namesFrom_append (seen first second : List Char) :
    namesFrom seen (first ++ '/' :: second) = namesFrom seen first ++ namesFrom [] second := by
  induction first generalizing seen with
  | nil => rfl
  | cons c rest inductionHypothesis =>
      simp only [List.cons_append, namesFrom]
      split <;> simp [inductionHypothesis]

theorem namesFrom_of_not_mem {name : List Char} (single : '/' ∉ name) (seen : List Char) :
    namesFrom seen name = [seen.reverse ++ name] := by
  induction name generalizing seen with
  | nil => simp [namesFrom]
  | cons c rest inductionHypothesis =>
      have other : c ≠ '/' := (List.ne_of_not_mem_cons single).symm
      rw [namesFrom, if_neg other, inductionHypothesis (List.not_mem_of_not_mem_cons single)]
      simp

theorem stepsIn_append (first second : List Char) :
    stepsIn (first ++ '/' :: second) = stepsIn first ++ stepsIn second := by
  rw [stepsIn, namesFrom_append, List.filter_append]
  rfl

theorem stepsIn_slash (text : List Char) : stepsIn ('/' :: text) = stepsIn text :=
  stepsIn_append [] text

theorem stepsIn_name {name : List Char} (single : '/' ∉ name) (named : name ≠ []) :
    stepsIn name = [name] := by
  rw [stepsIn, namesFrom_of_not_mem single]
  simp [named]

theorem stepsIn_behind {front : List Char} (outer : front = [] ∨ ∃ before, front = before ++ ['/'])
    (text : List Char) : stepsIn (front ++ text) = stepsIn front ++ stepsIn text := by
  rcases outer with rfl | ⟨before, rfl⟩
  · rfl
  · rw [List.append_assoc, List.singleton_append, stepsIn_append, stepsIn_append]
    simp [stepsIn, namesFrom]

theorem stepsIn_name_idle {name idle : List Char} (single : '/' ∉ name) (named : name ≠ [])
    (leads : Idle idle) : stepsIn (name ++ idle) = name :: stepsIn idle := by
  cases leads with
  | none => rw [List.append_nil, stepsIn_name single named]; rfl
  | slash rest => rw [stepsIn_append, stepsIn_name single named, stepsIn_slash]; rfl
  | dot rest => rw [stepsIn_append, stepsIn_name single named, stepsIn_slash]; rfl

/-- What stands behind the last name takes no steps but single dots. -/
theorem eq_dot_of_mem_stepsIn {idle step : List Char} (leads : Idle idle)
    (taken : step ∈ stepsIn idle) : step = ['.'] := by
  induction leads with
  | none => cases taken
  | slash rest _ inductionHypothesis =>
      rw [stepsIn_slash] at taken
      exact inductionHypothesis taken
  | dot rest leads inductionHypothesis =>
      rw [stepsIn_slash, ← List.singleton_append,
        stepsIn_name_idle (by decide) (by decide) leads] at taken
      rcases List.mem_cons.mp taken with rfl | others
      · rfl
      · exact inductionHypothesis others

theorem Parts.steps_eq {path : String} {front name idle : List Char}
    (parts : Parts path front name idle) (named : name ≠ []) :
    steps path = stepsIn front ++ name :: stepsIn idle := by
  change stepsIn path.toList = _
  rw [parts.whole, List.append_assoc, stepsIn_behind parts.outer,
    stepsIn_name_idle parts.single named parts.idle]

theorem Parts.steps_of_nameless {path : String} {front name idle : List Char}
    (parts : Parts path front name idle) (nameless : name = []) : steps path = stepsIn idle := by
  change stepsIn path.toList = _
  rw [parts.whole, parts.named nameless, nameless]
  rfl

/-- Behind another last name nothing else changes. -/
theorem Parts.steps_rename {path : String} {front name idle next : List Char}
    (parts : Parts path front name idle) (single : '/' ∉ next) (named : next ≠ []) :
    steps (String.ofList (front ++ next)) = stepsIn front ++ [next] := by
  change stepsIn (String.ofList (front ++ next)).toList = _
  rw [String.toList_ofList, stepsIn_behind parts.outer, stepsIn_name single named]

/-- A path with another last name starts where the path does. -/
theorem Parts.isAbsolute_rename {path : String} {front name idle next : List Char}
    (parts : Parts path front name idle) (named : name ≠ []) (single : '/' ∉ next)
    (named' : next ≠ []) : isAbsolute (String.ofList (front ++ next)) = isAbsolute path := by
  unfold isAbsolute
  rw [String.toList_ofList, parts.whole]
  cases front with
  | cons c rest => rfl
  | nil =>
      obtain ⟨c, rest, rfl⟩ := List.exists_cons_of_ne_nil named
      obtain ⟨c', rest', rfl⟩ := List.exists_cons_of_ne_nil named'
      have relative : c ≠ '/' := (List.ne_of_not_mem_cons parts.single).symm
      have relative' : c' ≠ '/' := (List.ne_of_not_mem_cons single).symm
      simp [relative, relative']

end Path

namespace Files

/-! ### Walks -/

variable {files : Files} {place final : Place}

theorem walk_cons_eq_ok_iff {name : List Char} {rest : List (List Char)} :
    files.walk place (name :: rest) = .ok final ↔
      files.isDirectory place = true ∧ files.walk (step place name) rest = .ok final := by
  rw [walk]
  constructor
  · intro arrives
    split at arrives
    next directory => exact ⟨directory, arrives⟩
    · split at arrives <;> cases arrives
  · rintro ⟨directory, arrives⟩
    rw [if_pos directory, arrives]

theorem walk_append_eq_ok_iff {first second : List (List Char)} :
    files.walk place (first ++ second) = .ok final ↔
      ∃ middle, files.walk place first = .ok middle ∧ files.walk middle second = .ok final := by
  induction first generalizing place with
  | nil => simp [walk]
  | cons step rest inductionHypothesis =>
      simp only [List.cons_append, walk_cons_eq_ok_iff, inductionHypothesis]
      constructor
      · rintro ⟨directory, middle, arrives, onwards⟩
        exact ⟨middle, ⟨directory, arrives⟩, onwards⟩
      · rintro ⟨middle, ⟨directory, arrives⟩, onwards⟩
        exact ⟨directory, middle, arrives, onwards⟩

/-- Single dots lead nowhere. -/
theorem eq_of_walk_dots {dots : List (List Char)} (dotted : ∀ step ∈ dots, step = ['.'])
    (arrives : files.walk place dots = .ok final) : final = place := by
  induction dots with
  | nil => exact (Except.ok.inj arrives).symm
  | cons step rest inductionHypothesis =>
      obtain ⟨rfl, others⟩ := List.forall_mem_cons.mp dotted
      exact inductionHypothesis others (walk_cons_eq_ok_iff.mp arrives).2

theorem isDirectory_iff :
    files.isDirectory place = true ↔ ∃ known ∈ files.knownDirectories, place <+: known := by
  simp only [isDirectory, List.any_eq_true, List.isPrefixOf_iff_prefix]

theorem isDirectory_dropLast (directory : files.isDirectory place = true) :
    files.isDirectory place.dropLast = true := by
  obtain ⟨known, listed, above⟩ := isDirectory_iff.mp directory
  exact isDirectory_iff.mpr ⟨known, listed, (List.dropLast_prefix place).trans above⟩

theorem isDirectory_start (path : String) : files.isDirectory (files.start path) = true := by
  refine isDirectory_iff.mpr ⟨files.start path, ?_, List.prefix_rfl⟩
  unfold start knownDirectories
  split
  · exact List.mem_cons_self
  · exact List.mem_cons_of_mem _ List.mem_cons_self

/-- A walk whose last step but single dots is a name ends at that name. -/
theorem walk_name {before dots : List (List Char)} {name : List Char} (single : name ≠ ['.'])
    (double : name ≠ ['.', '.']) (dotted : ∀ step ∈ dots, step = ['.'])
    (arrives : files.walk place (before ++ name :: dots) = .ok final) :
    ∃ directory, files.walk place before = .ok directory ∧ final = directory ++ [name] := by
  obtain ⟨directory, reached, onwards⟩ := walk_append_eq_ok_iff.mp arrives
  refine ⟨directory, reached, ?_⟩
  rw [eq_of_walk_dots dotted (walk_cons_eq_ok_iff.mp onwards).2, step, if_neg single,
    if_neg double]

theorem isDirectory_of_walk_dots {before dots : List (List Char)} {name : List Char}
    (upwards : name = ['.'] ∨ name = ['.', '.']) (dotted : ∀ step ∈ dots, step = ['.'])
    (arrives : files.walk place (before ++ name :: dots) = .ok final) :
    files.isDirectory final = true := by
  obtain ⟨directory, -, onwards⟩ := walk_append_eq_ok_iff.mp arrives
  obtain ⟨isDirectory, idle⟩ := walk_cons_eq_ok_iff.mp onwards
  rw [eq_of_walk_dots dotted idle]
  rcases upwards with rfl | rfl
  · exact isDirectory
  · exact isDirectory_dropLast isDirectory

theorem walk_of_locate {path : String} (found : files.locate path = .ok place) :
    files.walk (files.start path) (Path.steps path) = .ok place := by
  unfold locate at found
  split at found
  · cases found
  · exact found

theorem target_eq_ok_iff {path : String} : files.target path = .ok place ↔
    files.locate path = .ok place ∧ files.isDirectory place = false ∧
      Path.endsInSlash path = false := by
  constructor
  · intro found
    unfold target at found
    split at found
    · cases found
    next reached =>
      split at found
      · cases found
      next file =>
        obtain rfl := Except.ok.inj found
        simp only [Bool.or_eq_true, not_or, Bool.not_eq_true] at file
        exact ⟨reached, file⟩
  · rintro ⟨reached, outside, plain⟩
    simp [target, reached, outside, plain]

theorem read_eq_ok_iff {path text : String} : files.read path = .ok text ↔
    ∃ place, files.locate path = .ok place ∧ files.get? place = some text ∧
      Path.endsInSlash path = false := by
  constructor
  · intro found
    unfold read at found
    split at found
    · cases found
    next place reached =>
      refine ⟨place, reached, ?_⟩
      split at found
      next content here =>
        split at found
        · cases found
        next plain => exact ⟨Except.ok.inj found ▸ here, Bool.eq_false_iff.mpr plain⟩
      · split at found <;> cases found
  · rintro ⟨place, reached, here, plain⟩
    simp [read, reached, here, plain]

theorem isDirectory_of_nameless {path : String} {front name idle : List Char}
    (parts : Path.Parts path front name idle)
    (nameless : name = [] ∨ name = ['.'] ∨ name = ['.', '.'])
    (arrives : files.walk (files.start path) (Path.steps path) = .ok final) :
    files.isDirectory final = true := by
  have dotted : ∀ step ∈ Path.stepsIn idle, step = ['.'] := fun _ =>
    Path.eq_dot_of_mem_stepsIn parts.idle
  by_cases empty : name = []
  · rw [parts.steps_of_nameless empty] at arrives
    rw [eq_of_walk_dots dotted arrives]
    exact isDirectory_start path
  · rw [parts.steps_eq empty] at arrives
    exact isDirectory_of_walk_dots (nameless.resolve_left empty) dotted arrives

/-- A file and another one in the same directory whose name differs in the last extension. -/
inductive Beside (files : Files) (path ext : String) : Place → Place → Prop where
  | intro (front name idle next : List Char) (directory : Place)
      (parts : Path.Parts path front name idle) (extended : Path.Extended ext.toList name next)
      (renamed : Path.withExtension path ext = String.ofList (front ++ next)) :
      Beside files path ext (directory ++ [name]) (directory ++ [next])

/-- A file that is written under a path with a new extension stands beside the file that the path
leads to. -/
theorem beside_of_target {path ext : String} {source target : Place} (extending : ext.toList ≠ [])
    (plain : '/' ∉ ext.toList ∧ '.' ∉ ext.toList) (read : files.locate path = .ok source)
    (written : files.target (Path.withExtension path ext) = .ok target) :
    files.Beside path ext source target := by
  obtain ⟨reached, file, -⟩ := target_eq_ok_iff.mp written
  replace read := walk_of_locate read
  replace reached := walk_of_locate reached
  obtain ⟨front, name, idle, parts, renamed⟩ := Path.exists_parts path
  have outside : files.isDirectory target ≠ true := Bool.eq_false_iff.mp file
  rw [renamed] at reached
  split at reached
  next nameless => exact absurd (isDirectory_of_nameless parts nameless reached) outside
  next ordinary =>
    obtain ⟨named, single, double⟩ : name ≠ [] ∧ name ≠ ['.'] ∧ name ≠ ['.', '.'] := by
      simpa only [not_or] using ordinary
    split at reached
    next upwards =>
      rw [parts.steps_rename (by decide) (by decide)] at reached
      exact absurd (isDirectory_of_walk_dots (.inr rfl) (by simp) reached) outside
    next sideways =>
      have extended := Path.extended_stem ext.toList name
      have spelling := renamed ext
      rw [if_neg ordinary, if_neg sideways, List.append_assoc] at spelling
      rw [List.append_assoc] at reached
      generalize Path.stem name ++ '.' :: ext.toList = next at extended reached spelling
      obtain ⟨c, inside, other⟩ := extended.exists_not_dot extending plain.2
      have dotless : next ≠ ['.'] ∧ next ≠ ['.', '.'] := by
        constructor <;> (rintro rfl; simp [other] at inside)
      have single' := extended.single parts.single plain.1
      rw [parts.steps_rename single' (List.ne_nil_of_mem inside), start,
        parts.isAbsolute_rename named single' (List.ne_nil_of_mem inside), ← start] at reached
      rw [parts.steps_eq named] at read
      obtain ⟨directory, found, rfl⟩ := walk_name single double
        (fun _ => Path.eq_dot_of_mem_stepsIn parts.idle) read
      obtain ⟨other, found', rfl⟩ := walk_name dotless.1 dotless.2 (by simp) reached
      obtain rfl : directory = other := Except.ok.inj (found.symm.trans found')
      exact .intro front name idle next directory parts extended spelling

/-- The two files are the same exactly if the name has the new extension already. -/
theorem Beside.eq_iff {path ext : String} {source target : Place}
    (beside : files.Beside path ext source target) (plain : '.' ∉ ext.toList) :
    target = source ↔ ∃ directory base, base ≠ [] ∧
      source = directory ++ [base ++ '.' :: ext.toList] := by
  cases beside with
  | intro front name idle next directory parts extended renamed =>
      rw [List.append_cancel_left_eq, List.singleton_inj, extended.eq_iff plain]
      constructor
      · rintro ⟨base, named, rfl⟩
        exact ⟨directory, base, named, rfl⟩
      · rintro ⟨outer, base, named, same⟩
        exact ⟨base, named, List.singleton_inj.mp (List.append_inj_right' same rfl)⟩

end Files

end Chronogram.CommandLine
