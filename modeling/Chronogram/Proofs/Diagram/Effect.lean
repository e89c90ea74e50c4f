import Chronogram.Diagram.Draft
import Chronogram.Proofs.FirstFault
import Chronogram.Proofs.Table

/-!
What a statement does to a diagram.

For each kind of statement the relation says which diagram comes out, and everything that was
checked on the way. A property of one step is proved by cases of this relation, without opening the
functions that carry the statements out.
-/

namespace Chronogram.Diagram

/-- The diagrams that a statement can lead to. -/
inductive Effect (diagram : Diagram) : Statement → Diagram → Prop where
  | keepConfig (key value : String) (asked : Config.directive key value = .ok none) :
      Effect diagram (.config key value) diagram
  | configure (key value : String) (setting : Config.Setting)
      (asked : Config.directive key value = .ok (some setting)) :
      Effect diagram (.config key value) { diagram with config := diagram.config.set setting }
  | entitle (text : String) :
      Effect diagram (.title text) { diagram with title := fieldMarkup text }
  | keepLifeline (name : String) (known : fieldMarkup name ∈ diagram.lifelines.keys) :
      Effect diagram (.lifeline name) diagram
  | declare (name : String) (fresh : fieldMarkup name ∉ diagram.lifelines.keys) :
      Effect diagram (.lifeline name) { diagram with
        lifelines := diagram.lifelines.append (fieldMarkup name) (.declared (fieldMarkup name)) fresh }
  | restyle (name token : String) (style : LifelineStyle)
      (known : fieldMarkup name ∈ diagram.lifelines.keys)
      (read : LifelineStyle.ofName? token.toList = some style) :
      Effect diagram (.style name token)
        (diagram.modifyLifeline (fieldMarkup name) fun lifeline => { lifeline with style })
  | relabel (name label token : String) (index : Nat)
      (known : fieldMarkup name ∈ diagram.lifelines.keys) (read : numberOf token = .ok index)
      (bounded : index ≤ Limit.stateIndex.greatest) :
      Effect diagram (.state name label token)
        (diagram.modifyLifeline (fieldMarkup name) fun lifeline =>
          { lifeline with states := lifeline.states.insert index (fieldMarkup label) })
  | observe (token name : String) (field : StateField) (time index : Nat) (lifeline : Lifeline)
      (declared : diagram.declared (fieldMarkup name) = .ok lifeline)
      (read : numberOf token = .ok time) (bounded : time ≤ Limit.tickTime.greatest)
      (meant : stateOf lifeline (fieldMarkup name) field = .ok index) :
      Effect diagram (.tick token name field)
        { diagram with ticks := diagram.ticks ++ [⟨time, fieldMarkup name, index⟩] }
  | addSpan (name originToken destToken label : String) (originTick destTick : Nat)
      (readOrigin : numberOf originToken = .ok originTick)
      (readDest : numberOf destToken = .ok destTick) :
      Effect diagram (.span name originToken destToken label) { diagram with
        spans := diagram.spans ++ [⟨fieldMarkup name, originTick, destTick, fieldMarkup label⟩] }
  | addArrow (fields : ArrowFields) (arrow : Arrow) (read : arrowOf fields = .ok arrow) :
      Effect diagram (.arrow fields) { diagram with arrows := diagram.arrows ++ [arrow] }

theorem get?_of_declared {diagram : Diagram} {name : String} {lifeline : Lifeline}
    (declared : diagram.declared name = .ok lifeline) :
    diagram.lifelines.get? name = some lifeline := by
  unfold Diagram.declared at declared
  cases found : diagram.lifelines.get? name with
  | none => simp [found] at declared
  | some value =>
      simp only [found, Except.ok.injEq] at declared
      rw [declared]

theorem mem_keys_of_declared {diagram : Diagram} {name : String} {lifeline : Lifeline}
    (declared : diagram.declared name = .ok lifeline) : name ∈ diagram.lifelines.keys :=
  Table.mem_keys_of_get? (get?_of_declared declared)

theorem le_of_checkLimit {limit : Limit} {value : Nat} (checked : checkLimit limit value = .ok ()) :
    value ≤ limit.greatest := by
  refine Classical.byContradiction fun exceeded => ?_
  simp [checkLimit, Nat.lt_of_not_le exceeded] at checked

variable {diagram next : Diagram}

theorem effect_of_configure {key value : String} (applied : diagram.configure key value = .ok next) :
    Effect diagram (.config key value) next := by
  unfold configure Config.apply at applied
  cases asked : Config.directive key value with
  | error fault => cases fault <;> simp [asked] at applied
  | ok setting =>
      cases setting with
      | none =>
          simp only [asked, Except.ok.injEq] at applied
          exact applied ▸ .keepConfig key value asked
      | some setting =>
          simp only [asked, Except.ok.injEq] at applied
          exact applied ▸ .configure key value setting asked

theorem effect_of_declare (diagram : Diagram) (name : String) :
    Effect diagram (.lifeline name) (diagram.declare (fieldMarkup name)) := by
  unfold Diagram.declare
  by_cases known : fieldMarkup name ∈ diagram.lifelines.keys
  · rw [if_pos (Table.contains_iff.mpr known)]
    exact .keepLifeline name known
  · rw [if_neg (known ∘ Table.contains_iff.mp)]
    simp only [Table.insert, known, ↓reduceDIte]
    exact .declare name known

theorem effect_of_setStyle {name token : String}
    (applied : diagram.setStyle (fieldMarkup name) token = .ok next) :
    Effect diagram (.style name token) next := by
  obtain ⟨lifeline, declared, styled⟩ := bind_eq_ok_iff.mp applied
  cases read : LifelineStyle.ofName? token.toList with
  | none => simp [read] at styled
  | some style =>
      simp only [read, Except.ok.injEq] at styled
      exact styled ▸ .restyle name token style (mem_keys_of_declared declared) read

theorem effect_of_setState {name label token : String}
    (applied : diagram.setState (fieldMarkup name) (fieldMarkup label) token = .ok next) :
    Effect diagram (.state name label token) next := by
  obtain ⟨index, read, checking⟩ := bind_eq_ok_iff.mp applied
  obtain ⟨_, checked, declaring⟩ := bind_eq_ok_iff.mp checking
  obtain ⟨lifeline, declared, labelled⟩ := bind_eq_ok_iff.mp declaring
  simp only [Except.ok.injEq] at labelled
  exact labelled ▸ .relabel name label token index (mem_keys_of_declared declared) read
    (le_of_checkLimit checked)

theorem effect_of_observe {token name : String} {field : StateField}
    (applied : diagram.observe token (fieldMarkup name) field = .ok next) :
    Effect diagram (.tick token name field) next := by
  obtain ⟨time, read, checking⟩ := bind_eq_ok_iff.mp applied
  obtain ⟨_, checked, declaring⟩ := bind_eq_ok_iff.mp checking
  obtain ⟨lifeline, declared, finding⟩ := bind_eq_ok_iff.mp declaring
  obtain ⟨index, meant, observed⟩ := bind_eq_ok_iff.mp finding
  simp only [Except.ok.injEq] at observed
  exact observed ▸ .observe token name field time index lifeline declared read
    (le_of_checkLimit checked) meant

theorem effect_of_addSpan {name originToken destToken label : String}
    (applied : diagram.addSpan (fieldMarkup name) originToken destToken (fieldMarkup label) =
      .ok next) :
    Effect diagram (.span name originToken destToken label) next := by
  obtain ⟨originTick, readOrigin, remaining⟩ := bind_eq_ok_iff.mp applied
  obtain ⟨destTick, readDest, added⟩ := bind_eq_ok_iff.mp remaining
  simp only [Except.ok.injEq] at added
  exact added ▸ .addSpan name originToken destToken label originTick destTick readOrigin readDest

theorem effect_of_addArrow {fields : ArrowFields} (applied : diagram.addArrow fields = .ok next) :
    Effect diagram (.arrow fields) next := by
  obtain ⟨arrow, read, added⟩ := bind_eq_ok_iff.mp applied
  simp only [Except.ok.injEq] at added
  exact added ▸ .addArrow fields arrow read

theorem effect_of_apply {statement : Statement} (applied : diagram.apply statement = .ok next) :
    Effect diagram statement next := by
  cases statement with
  | config key value => exact effect_of_configure applied
  | title text =>
      cases applied
      exact .entitle text
  | lifeline name =>
      cases applied
      exact effect_of_declare diagram name
  | style name token => exact effect_of_setStyle applied
  | state name label token => exact effect_of_setState applied
  | span name originToken destToken label => exact effect_of_addSpan applied
  | arrow fields => exact effect_of_addArrow applied
  | tick token name field => exact effect_of_observe applied

end Chronogram.Diagram
