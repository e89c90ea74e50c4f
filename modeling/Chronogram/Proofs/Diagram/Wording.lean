import Chronogram.Compiler
import Chronogram.Proofs.Source.OneLine

/-!
Faults of lines are worded on one line.

The wording of a fault quotes the line at fault or fields of it. Fields hold no line feed, and neither
resolving their backslashes nor escaping them brings one in.
-/

namespace Chronogram

open Source Text

theorem OneLine.append {first second : String} (oneLine : OneLine first)
    (oneLine' : OneLine second) : OneLine (first ++ second) := by
  unfold OneLine
  rw [String.toList_append, List.mem_append]
  exact not_or.mpr ⟨oneLine, oneLine'⟩

theorem oneLine_toString (n : Nat) : OneLine (toString n) := by
  intro fed
  have digits : (toString n).toList = Nat.toDigits 10 n := Nat.toList_repr
  rw [digits] at fed
  exact absurd (Nat.isDigit_of_mem_toDigits (by decide) (by decide) fed) (by decide)

theorem mem_of_mem_unescape {text : List Char} {c : Char} (kept : c ∈ Quoted.unescape text) :
    c ∈ text := by
  fun_induction Quoted.unescape text with
  | case1 => exact kept
  | case2 => exact kept
  | case3 d rest inductionHypothesis =>
      refine List.mem_cons_of_mem _ ?_
      rcases List.mem_cons.mp kept with rfl | later
      · exact List.mem_cons_self
      · exact List.mem_cons_of_mem d (inductionHypothesis later)
  | case4 d rest _ _ inductionHypothesis =>
      rcases List.mem_cons.mp kept with rfl | later
      · exact List.mem_cons_self
      · exact List.mem_cons_of_mem d (inductionHypothesis later)

theorem feedless_escape {text : List Char} (feedless : '\n' ∉ text) :
    '\n' ∉ Markup.escape text := by
  intro fed
  obtain ⟨c, membership, here⟩ := List.mem_flatMap.mp fed
  unfold Markup.escapeChar at here
  split at here
  case h_6 =>
    obtain rfl := List.mem_singleton.mp here
    exact feedless membership
  all_goals exact absurd here (by decide)

theorem oneLine_fieldMarkup {raw : String} (feedless : '\n' ∉ raw.toList) :
    OneLine (fieldMarkup raw) := by
  rw [OneLine, fieldMarkup, String.toList_ofList]
  exact feedless_escape fun fed => feedless (mem_of_mem_unescape fed)

theorem oneLine_plainMarkup {text : String} (oneLine : OneLine text) :
    OneLine (plainMarkup text) := by
  rw [OneLine, plainMarkup, String.toList_ofList]
  exact feedless_escape oneLine

/-! ### Faults of lines -/

def Fault.quoted : Fault → List String
  | .unknownConfigKey key => [key]
  | .invalidConfigValue key value _ => [key, value]
  | .invalidStyle style => [style]
  | .unknownLifeline name => [name]
  | .unknownState lifeline state => [lifeline, state]
  | .invalidStateIndex token | .invalidNumber token => [token]
  | .limitExceeded .. => []
  | .unrecognizedStatement text => [text]

theorem Fault.oneLine_message {fault : Fault} (oneLine : ∀ text ∈ fault.quoted, OneLine text) :
    OneLine fault.message := by
  cases fault with
  | unknownConfigKey text | invalidStyle text | unknownLifeline text
  | invalidStateIndex text | invalidNumber text =>
      have quoted : OneLine text := oneLine text List.mem_cons_self
      refine .append (.append ?_ quoted) ?_ <;> decide +kernel
  | invalidConfigValue key value expectation =>
      have quotedKey : OneLine key := oneLine key List.mem_cons_self
      have quotedValue : OneLine value := oneLine value (by simp [quoted])
      have expected : OneLine expectation.message := by cases expectation <;> decide +kernel
      refine .append (.append (.append (.append (.append ?_ quotedValue) ?_) quotedKey) ?_)
        expected <;> decide +kernel
  | unknownState lifeline state =>
      have quotedName : OneLine lifeline := oneLine lifeline List.mem_cons_self
      have quotedState : OneLine state := oneLine state (by simp [quoted])
      refine .append (.append (.append (.append ?_ quotedState) ?_) quotedName) ?_ <;>
        decide +kernel
  | limitExceeded limit value =>
      have called : OneLine limit.name := by cases limit <;> decide +kernel
      refine .append (.append (.append (.append called ?_) (oneLine_toString value)) ?_)
        (oneLine_toString limit.greatest) <;> decide +kernel
  | unrecognizedStatement text =>
      have quoted : OneLine text := oneLine text List.mem_cons_self
      refine .append ?_ quoted
      decide +kernel

/-- A computation whose fault, if it has one, quotes nothing but texts of one line. -/
def QuotesOneLine {α : Type} (result : Except Fault α) : Prop :=
  ∀ fault, result = .error fault → ∀ text ∈ fault.quoted, OneLine text

namespace QuotesOneLine

variable {α β : Type}

theorem ok (value : α) : QuotesOneLine (.ok value) := by
  intro fault failed
  cases failed

theorem error {fault : Fault} (oneLine : ∀ text ∈ fault.quoted, OneLine text) :
    QuotesOneLine (.error fault : Except Fault α) := by
  intro other failed
  cases failed
  exact oneLine

theorem error_of_eq {fault : Fault} {text : String} (quoted : fault.quoted = [text])
    (oneLine : OneLine text) : QuotesOneLine (.error fault : Except Fault α) := by
  apply error
  rw [quoted]
  exact List.forall_mem_singleton.mpr oneLine

theorem bind {result : Except Fault α} {next : α → Except Fault β} (first : QuotesOneLine result)
    (second : ∀ value, QuotesOneLine (next value)) : QuotesOneLine (result >>= next) := by
  intro fault failed
  cases result with
  | error found =>
      cases failed
      exact first fault rfl
  | ok value => exact second value fault failed

theorem numberOf {token : String} (oneLine : OneLine token) :
    QuotesOneLine (Chronogram.numberOf token) := by
  unfold Chronogram.numberOf
  split
  · exact ok _
  · exact error_of_eq rfl oneLine

theorem positionOf {token : Option String} (oneLine : ∀ digits ∈ token, OneLine digits) :
    QuotesOneLine (Chronogram.positionOf token) := by
  cases token with
  | none => exact ok _
  | some digits =>
      unfold Chronogram.positionOf
      dsimp only
      split
      · exact ok _
      · exact error_of_eq rfl (oneLine digits rfl)

theorem checkLimit (limit : Limit) (value : Nat) :
    QuotesOneLine (Chronogram.checkLimit limit value) := by
  unfold Chronogram.checkLimit
  split
  · exact error (List.forall_mem_nil _)
  · exact ok _

theorem declared (diagram : Diagram) {name : String} (oneLine : OneLine name) :
    QuotesOneLine (diagram.declared name) := by
  unfold Diagram.declared
  split
  · exact ok _
  · exact error_of_eq rfl oneLine

theorem configure (diagram : Diagram) {key value : String} (oneLineKey : OneLine key)
    (oneLineValue : OneLine value) : QuotesOneLine (diagram.configure key value) := by
  unfold Diagram.configure
  split
  · exact ok _
  · exact error_of_eq rfl oneLineKey
  · exact error (List.forall_mem_cons.mpr ⟨oneLineKey, List.forall_mem_singleton.mpr oneLineValue⟩)

theorem setStyle (diagram : Diagram) {name token : String} (oneLineName : OneLine name)
    (oneLineToken : OneLine token) : QuotesOneLine (diagram.setStyle name token) := by
  refine (declared diagram oneLineName).bind fun lifeline => ?_
  split
  · exact ok _
  · exact error_of_eq rfl oneLineToken

theorem setState (diagram : Diagram) {name label token : String} (oneLineName : OneLine name)
    (oneLineToken : OneLine token) : QuotesOneLine (diagram.setState name label token) := by
  refine (numberOf oneLineToken).bind fun index => ?_
  refine (checkLimit .stateIndex index).bind fun _ => ?_
  exact (declared diagram oneLineName).bind fun _ => ok _

theorem labelledState {lifeline : Lifeline} {name label : String} (oneLineName : OneLine name)
    (oneLineLabel : OneLine label) : QuotesOneLine (Diagram.labelledState lifeline name label) := by
  unfold Diagram.labelledState
  split
  · exact ok _
  · exact error (List.forall_mem_cons.mpr ⟨oneLineName, List.forall_mem_singleton.mpr oneLineLabel⟩)

theorem stateOf {lifeline : Lifeline} {name : String} {state : StateField}
    (oneLineName : OneLine name) (feedless : '\n' ∉ state.field.2) :
    QuotesOneLine (Diagram.stateOf lifeline name state) := by
  cases state with
  | quoted raw => exact labelledState oneLineName (oneLine_fieldMarkup feedless)
  | bare token =>
      unfold Diagram.stateOf
      dsimp only
      split
      · split
        · exact ok _
        · exact error_of_eq rfl feedless
      · exact labelledState oneLineName (oneLine_plainMarkup feedless)

theorem observe (diagram : Diagram) {token name : String} {state : StateField}
    (oneLineToken : OneLine token) (oneLineName : OneLine name) (feedless : '\n' ∉ state.field.2) :
    QuotesOneLine (diagram.observe token name state) := by
  refine (numberOf oneLineToken).bind fun time => ?_
  refine (checkLimit .tickTime time).bind fun _ => ?_
  refine (declared diagram oneLineName).bind fun lifeline => ?_
  exact (stateOf oneLineName feedless).bind fun _ => ok _

theorem addSpan (diagram : Diagram) {name originToken destToken label : String}
    (oneLineOrigin : OneLine originToken) (oneLineDest : OneLine destToken) :
    QuotesOneLine (diagram.addSpan name originToken destToken label) := by
  refine (numberOf oneLineOrigin).bind fun originTick => ?_
  exact (numberOf oneLineDest).bind fun destTick => ok _

theorem endOf {fields : EndFields} {number : Nat}
    (feedless : ∀ entry ∈ fields.fields number, '\n' ∉ entry.2) :
    QuotesOneLine (Diagram.endOf fields) := by
  have tick : OneLine fields.tick :=
    feedless (number, fields.tick.toList) (by simp [EndFields.fields])
  refine (numberOf tick).bind fun _ => QuotesOneLine.bind ?_ fun _ => ok _
  cases given : fields.slot with
  | none => exact ok _
  | some digits =>
      have slot : OneLine digits :=
        feedless (number + 2, digits.toList) (by simp [EndFields.fields, given])
      exact numberOf slot

theorem addArrow (diagram : Diagram) {fields : ArrowFields}
    (feedless : ∀ entry ∈ fields.fields, '\n' ∉ entry.2) :
    QuotesOneLine (diagram.addArrow fields) := by
  have positioned : ∀ digits ∈ fields.label.bind LabelFields.position, OneLine digits := by
    intro digits given
    obtain ⟨label, labelled, placed⟩ := Option.bind_eq_some_iff.mp given
    apply feedless (9, digits.toList)
    simp [ArrowFields.fields, LabelFields.fields, labelled, placed]
  have origin : ∀ entry ∈ fields.origin.fields 1, '\n' ∉ entry.2 := fun entry membership =>
    feedless entry (by simp [ArrowFields.fields, membership])
  have dest : ∀ entry ∈ fields.dest.fields 5, '\n' ∉ entry.2 := fun entry membership =>
    feedless entry (by simp [ArrowFields.fields, membership])
  refine QuotesOneLine.bind ?_ fun _ => ok _
  refine (positionOf positioned).bind fun _ => (endOf origin).bind fun _ => ?_
  exact (endOf dest).bind fun _ => ok _

/-- What is wrong with a statement is told in texts of one line. -/
theorem apply (diagram : Diagram) {statement : Statement} (feedless : statement.Feedless) :
    QuotesOneLine (diagram.apply statement) := by
  unfold Statement.Feedless at feedless
  cases statement with
  | config key value =>
      simp only [Statement.fields, List.forall_mem_cons] at feedless
      exact configure diagram feedless.1 feedless.2.1
  | title text => exact ok _
  | lifeline name => exact ok _
  | style name token =>
      simp only [Statement.fields, List.forall_mem_cons] at feedless
      exact setStyle diagram (oneLine_fieldMarkup feedless.1) feedless.2.1
  | state name label index =>
      simp only [Statement.fields, List.forall_mem_cons] at feedless
      exact setState diagram (oneLine_fieldMarkup feedless.1) feedless.2.2.1
  | span name originTick destTick label =>
      simp only [Statement.fields, List.forall_mem_cons] at feedless
      exact addSpan diagram feedless.2.1 feedless.2.2.1
  | arrow fields => exact addArrow diagram feedless
  | tick time name state =>
      simp only [Statement.fields, List.forall_mem_cons] at feedless
      exact observe diagram feedless.1 (oneLine_fieldMarkup feedless.2.1) feedless.2.2.1

end QuotesOneLine

theorem LineFault.oneLine_message {error : LineFault}
    (oneLine : ∀ text ∈ error.fault.quoted, OneLine text) : OneLine error.message := by
  have worded := Fault.oneLine_message oneLine
  refine .append (.append (.append ?_ (oneLine_toString error.line)) ?_) worded <;> decide +kernel

section Drafts

variable {mode : Mode} {draft : Draft} {error : LineFault}

theorem Draft.oneLine_of_step_error {line : Line} (oneLine : OneLine line.text)
    (failed : draft.step mode line = .error error) : OneLine error.message := by
  apply LineFault.oneLine_message
  unfold step at failed
  cases read : Statement.read? line.text with
  | some statement =>
      cases applied : draft.diagram.apply statement with
      | ok diagram => simp [read, applied] at failed
      | error fault =>
          simp only [read, applied, Except.error.injEq] at failed
          subst failed
          have feedless := Statement.feedless_of_read? oneLine read
          exact QuotesOneLine.apply draft.diagram feedless fault applied
  | none =>
      cases mode with
      | lenient => simp [read] at failed
      | strict =>
          simp only [read, Except.error.injEq] at failed
          subst failed
          exact List.forall_mem_singleton.mpr oneLine

theorem Draft.oneLine_of_steps_error {lines : List Line}
    (oneLine : ∀ line ∈ lines, OneLine line.text) (failed : steps mode draft lines = .error error) :
    OneLine error.message := by
  induction lines generalizing draft with
  | nil => cases failed
  | cons line rest inductionHypothesis =>
      obtain ⟨first, others⟩ := List.forall_mem_cons.mp oneLine
      unfold steps at failed
      cases taken : draft.step mode line with
      | error found =>
          simp only [taken, Except.error.injEq] at failed
          exact oneLine_of_step_error first (failed ▸ taken)
      | ok answer =>
          simp only [taken] at failed
          exact inductionHypothesis others failed

theorem Settings.oneLine_of_draft_error {settings : Settings} {text : String}
    (failed : settings.draft text = .error error) : OneLine error.message :=
  Draft.oneLine_of_steps_error (fun _ => oneLine_of_mem_script) failed

end Drafts

end Chronogram
