import Chronogram.Proofs.Diagram.Printing
import Chronogram.Proofs.Markup.Escape

/-!
Reading back diagrams that have been printed.

The statements of a diagram are carried out one after the other, each adding its part to what the
statements before it have built. In the end the diagram is there again, its texts as markup.
-/

namespace Chronogram

open Text

def Lifeline.markup (lifeline : Lifeline) : Lifeline :=
  ⟨plainMarkup lifeline.name, lifeline.style, lifeline.states.map plainMarkup⟩

def Tick.markup (tick : Tick) : Tick :=
  { tick with lifeline := plainMarkup tick.lifeline }

def Span.markup (span : Span) : Span :=
  { span with lifeline := plainMarkup span.lifeline, label := plainMarkup span.label }

def ArrowEnd.markup (arrowEnd : ArrowEnd) : ArrowEnd :=
  { arrowEnd with lifeline := plainMarkup arrowEnd.lifeline }

def Arrow.markup (arrow : Arrow) : Arrow :=
  { arrow with
    origin := arrow.origin.markup
    dest := arrow.dest.markup
    label := arrow.label.map plainMarkup }

/-- A diagram whose texts are markup, with the settings of the place where it is read. -/
def Diagram.markup (diagram : Diagram) (site : Config) : Diagram where
  title := plainMarkup diagram.title
  config := site
  lifelines := diagram.lifelines.rename plainMarkup plainMarkup_injective Lifeline.markup
  ticks := diagram.ticks.map Tick.markup
  spans := diagram.spans.map Span.markup
  arrows := diagram.arrows.map Arrow.markup

namespace Diagram

theorem numberOf_numberField {n : Nat} (within : n < 2 ^ 64) :
    numberOf (numberField n) = .ok n := by
  have bound : n < Numeral.wordBound := within
  simp [numberOf, numberField, Numeral.unsigned?_ofNat bound]

theorem checkLimit_of_le {limit : Limit} {value : Nat} (within : value ≤ limit.greatest) :
    checkLimit limit value = .ok () := by
  simp [checkLimit, Nat.not_lt_of_le within]

theorem declared_of_get? {diagram : Diagram} {name : String} {lifeline : Lifeline}
    (found : diagram.lifelines.get? name = some lifeline) :
    diagram.declared name = .ok lifeline := by
  simp [declared, found]

theorem foldlM_apply_map {β γ : Type} {statement : β → Statement} {item : β → γ}
    {put : List γ → Diagram} {sources : List β}
    (adds : ∀ source ∈ sources, ∀ added,
      (put added).apply (statement source) = .ok (put (added ++ [item source])))
    (added : List γ) :
    (sources.map statement).foldlM apply (put added) = .ok (put (added ++ sources.map item)) := by
  induction sources generalizing added with
  | nil => simp [pure, Except.pure]
  | cons source rest inductionHypothesis =>
      obtain ⟨first, others⟩ := List.forall_mem_cons.mp adds
      rw [List.map_cons, List.foldlM_cons, first]
      refine (inductionHypothesis others _).trans ?_
      simp

section Lifelines

variable {diagram : Diagram} {lifeline : Lifeline}

def withLifeline (diagram : Diagram) (name : String) (lifeline : Lifeline)
    (fresh : name ∉ diagram.lifelines.keys) : Diagram :=
  { diagram with lifelines := diagram.lifelines.append name lifeline fresh }

variable {name : String} (fresh : name ∉ diagram.lifelines.keys)

theorem declared_withLifeline :
    (diagram.withLifeline name lifeline fresh).declared name = .ok lifeline :=
  declared_of_get? (Table.get?_append_self fresh)

theorem modifyLifeline_withLifeline (f : Lifeline → Lifeline) :
    (diagram.withLifeline name lifeline fresh).modifyLifeline name f =
      diagram.withLifeline name (f lifeline) fresh := by
  simp only [modifyLifeline, withLifeline, Table.modify_append]

theorem declare_fresh :
    diagram.declare name = diagram.withLifeline name (.declared name) fresh := by
  simp [declare, withLifeline, Table.insert, fresh]

theorem setStyle_withLifeline (style : LifelineStyle) :
    (diagram.withLifeline name lifeline fresh).setStyle name style.name =
      .ok (diagram.withLifeline name { lifeline with style } fresh) := by
  have known : LifelineStyle.ofName? style.name.toList = some style := by
    cases style <;> decide
  simp only [setStyle, declared_withLifeline, known, modifyLifeline_withLifeline]
  rfl

theorem setState_withLifeline {index : Nat} (within : index ≤ 4096) (label : String) :
    (diagram.withLifeline name lifeline fresh).setState name label (numberField index) =
      .ok (diagram.withLifeline name
        { lifeline with states := lifeline.states.insert index label } fresh) := by
  have number : numberOf (numberField index) = .ok index := numberOf_numberField (by omega)
  have checked : checkLimit .stateIndex index = .ok () := checkLimit_of_le within
  simp only [setState, number, declared_withLifeline, modifyLifeline_withLifeline]
  simp only [bind, Except.bind, checked]

theorem foldlM_lifeline (printable : lifeline.Printable)
    (fresh : plainMarkup lifeline.name ∉ diagram.lifelines.keys) :
    lifeline.statements.foldlM apply diagram =
      .ok (diagram.withLifeline (plainMarkup lifeline.name) lifeline.markup fresh) := by
  let put (added : List (Nat × String)) : Diagram :=
    diagram.withLifeline (plainMarkup lifeline.name)
      ⟨plainMarkup lifeline.name, lifeline.style,
        added.foldl (fun states entry => states.insert entry.1 entry.2) Catalog.empty⟩ fresh
  let declared : Diagram :=
    diagram.withLifeline (plainMarkup lifeline.name) (.declared (plainMarkup lifeline.name)) fresh
  have declares : diagram.apply (.lifeline (rawField lifeline.name)) = .ok declared := by
    rw [apply, fieldMarkup_rawField, declare_fresh fresh]
  have styles : declared.apply (.style (rawField lifeline.name) lifeline.style.name) =
      .ok (put []) := by
    rw [apply, fieldMarkup_rawField, setStyle_withLifeline fresh]
    rfl
  have labels : ∀ entry ∈ lifeline.states.labels, ∀ added,
      (put added).apply (.state (rawField lifeline.name) (rawField entry.2)
        (numberField entry.1)) = .ok (put (added ++ [(entry.1, plainMarkup entry.2)])) := by
    intro entry labelled added
    have within := (printable.labels entry labelled).1
    rw [apply, fieldMarkup_rawField, fieldMarkup_rawField, setState_withLifeline fresh within]
    simp only [put, List.foldl_append, List.foldl_cons, List.foldl_nil]
  have compact : (lifeline.states.map plainMarkup).Compact := Catalog.compact_map printable.compact
  have rebuilt := Catalog.foldl_insert_labels_of_compact compact
  rw [Catalog.labels_map] at rebuilt
  rw [Lifeline.statements, List.foldlM_cons]
  refine bind_eq_ok_iff.mpr ⟨declared, declares, ?_⟩
  rw [List.foldlM_cons]
  refine bind_eq_ok_iff.mpr ⟨put [], styles, ?_⟩
  refine (foldlM_apply_map labels []).trans ?_
  simp only [put, List.nil_append, rebuilt, Lifeline.markup]

/-- The statements of some lifelines with new names add these lifelines in order. -/
theorem foldlM_lifelines {lifelines : List Lifeline}
    (printable : ∀ lifeline ∈ lifelines, lifeline.Printable) {target : Table Lifeline}
    (entries : target.entries = diagram.lifelines.entries ++
      lifelines.map fun lifeline => (plainMarkup lifeline.name, lifeline.markup)) :
    (lifelines.flatMap Lifeline.statements).foldlM apply diagram =
      .ok { diagram with lifelines := target } := by
  induction lifelines generalizing diagram with
  | nil =>
      have same : target = diagram.lifelines := Table.ext (by simpa using entries)
      rw [same]
      rfl
  | cons lifeline rest inductionHypothesis =>
      obtain ⟨printableFirst, printableRest⟩ := List.forall_mem_cons.mp printable
      have fresh : plainMarkup lifeline.name ∉ diagram.lifelines.keys := by
        have distinct := target.nodup
        rw [entries, List.map_append, List.nodup_append] at distinct
        intro known
        exact distinct.2.2 _ known _ (by simp) rfl
      rw [List.flatMap_cons, List.foldlM_append, foldlM_lifeline printableFirst fresh]
      refine inductionHypothesis printableRest ?_
      simpa [withLifeline, Table.append] using entries

end Lifelines

theorem apply_tick {diagram : Diagram} {tick : Tick} (time : tick.time ≤ 100000)
    (declared : plainMarkup tick.lifeline ∈ diagram.lifelines.keys) (state : tick.state < 2 ^ 64) :
    diagram.apply tick.statement = .ok { diagram with ticks := diagram.ticks ++ [tick.markup] } := by
  obtain ⟨lifeline, found⟩ := Table.exists_get? declared
  have readTime : numberOf (numberField tick.time) = .ok tick.time :=
    numberOf_numberField (by omega)
  have checked : checkLimit .tickTime tick.time = .ok () := checkLimit_of_le time
  have readState : stateOf lifeline (plainMarkup tick.lifeline)
      (.bare (numberField tick.state)) = .ok tick.state := by
    have bound : tick.state < Numeral.wordBound := state
    simp [stateOf, numberField, Numeral.isNumeral_ofNat, Numeral.unsigned?_ofNat bound]
  rw [Tick.statement, apply, fieldMarkup_rawField, observe]
  simp only [readTime, declared_of_get? found]
  simp only [bind, Except.bind, checked, readState, Tick.markup]

theorem apply_span {diagram : Diagram} {span : Span} (printable : span.Printable) :
    diagram.apply span.statement = .ok { diagram with spans := diagram.spans ++ [span.markup] } := by
  rw [Span.statement, apply, fieldMarkup_rawField, fieldMarkup_rawField, addSpan,
    numberOf_numberField printable.originTick, numberOf_numberField printable.destTick]
  rfl

theorem endOf_fields {arrowEnd : ArrowEnd} (printable : arrowEnd.Printable) :
    endOf arrowEnd.fields = .ok arrowEnd.markup := by
  simp only [endOf, ArrowEnd.fields, numberOrZero, numberOf_numberField printable.tick,
    numberOf_numberField printable.slot, fieldMarkup_rawField]
  rfl

theorem apply_arrow {diagram : Diagram} {arrow : Arrow} (printable : arrow.Printable) :
    diagram.apply arrow.statement =
      .ok { diagram with arrows := diagram.arrows ++ [arrow.markup] } := by
  have origin := endOf_fields printable.origin
  have dest := endOf_fields printable.dest
  have read := Numeral.signed?_ofInt printable.lower printable.upper
  obtain ⟨originEnd, destEnd, label, position, side, style⟩ := arrow
  cases label with
  | none =>
      have unplaced : position = 0 := printable.unlabelled rfl
      simp only [Arrow.statement, apply, addArrow, arrowOf, positionOf, Option.map_none,
        Option.bind_none, origin, dest, unplaced, Arrow.markup]
      rfl
  | some label =>
      simp only [Arrow.statement, apply, addArrow, arrowOf, positionOf, Option.map_some,
        Option.bind_some, String.toList_ofList, read, origin, dest, fieldMarkup_rawField,
        Arrow.markup]
      rfl

/-- The statements of a diagram that can be printed build that diagram. -/
theorem foldlM_statements {raw : Diagram} (printable : raw.Printable) (site : Config) :
    raw.statements.foldlM apply (blank site) = .ok (raw.markup site) := by
  let titled : Diagram := { blank site with title := plainMarkup raw.title }
  let lifelines := (raw.markup site).lifelines
  let observed (ticks : List Tick) : Diagram := { titled with lifelines, ticks }
  let spanned (spans : List Span) : Diagram := { observed (raw.markup site).ticks with spans }
  let joined (arrows : List Arrow) : Diagram := { spanned (raw.markup site).spans with arrows }
  have titles : (blank site).apply (.title (rawField raw.title)) = .ok titled := by
    rw [apply, fieldMarkup_rawField]
  have declares : (raw.lifelines.values.flatMap Lifeline.statements).foldlM apply titled =
      .ok (observed []) := by
    refine foldlM_lifelines printable.lifelines ?_
    have renamed : raw.lifelines.entries.map (fun entry =>
        (plainMarkup entry.1, entry.2.markup)) = raw.lifelines.entries.map (fun entry =>
        (plainMarkup entry.2.name, entry.2.markup)) :=
      List.map_congr_left fun entry stored => by rw [printable.named entry stored]
    have empty : titled.lifelines.entries = [] := rfl
    rw [empty, List.nil_append, Table.values, List.map_map]
    exact renamed
  have observes : (raw.ticks.map Tick.statement).foldlM apply (observed []) =
      .ok (observed (raw.markup site).ticks) := by
    refine foldlM_apply_map ?_ []
    intro tick membership added
    obtain ⟨time, declared, state⟩ := printable.ticks tick membership
    refine apply_tick time ?_ state
    have renamed : plainMarkup tick.lifeline ∈ lifelines.keys := by
      simp only [lifelines, markup, Table.keys_rename]
      exact List.mem_map_of_mem declared
    exact renamed
  have spans : (raw.spans.map Span.statement).foldlM apply (spanned []) =
      .ok (spanned (raw.markup site).spans) :=
    foldlM_apply_map (fun span membership _ => apply_span (printable.spans span membership)) []
  have arrows : (raw.arrows.map Arrow.statement).foldlM apply (joined []) =
      .ok (joined (raw.markup site).arrows) :=
    foldlM_apply_map (fun arrow membership _ => apply_arrow (printable.arrows arrow membership)) []
  rw [statements, List.foldlM_cons]
  refine bind_eq_ok_iff.mpr ⟨titled, titles, ?_⟩
  rw [List.foldlM_append, List.foldlM_append, List.foldlM_append]
  refine bind_eq_ok_iff.mpr ⟨joined [], ?_, arrows⟩
  refine bind_eq_ok_iff.mpr ⟨spanned [], ?_, spans⟩
  exact bind_eq_ok_iff.mpr ⟨observed [], declares, observes⟩

end Diagram

/-- Reading undoes printing. The text of a diagram that can be printed is read without a fault and
without a warning, in either mode and with any settings, as that diagram: everything stands in the
same order, the texts are the markup of the raw texts, and the settings are those of the place. -/
theorem reading_undoes_printing (raw : Diagram) (printable : raw.Printable) (settings : Settings) :
    settings.draft raw.source = .ok ⟨raw.markup settings.site, []⟩ :=
  settings.draft_textOf (Diagram.writable_statements printable)
    (Diagram.foldlM_statements printable settings.site)

/-- A diagram with texts in which quotes, backslashes and number signs could be mistaken. -/
def thornyDiagram : Diagram where
  title := "say \"so\" # and \\\" <b> & T0: "
  config := Config.standard
  lifelines :=
    ⟨[("a\" #\\", ⟨"a\" #\\", .slice, ⟨[none, some " # ", none, some "\\"]⟩⟩),
      ("", ⟨"", .simplified, ⟨[]⟩⟩)], by decide⟩
  ticks := [⟨100000, "", 18446744073709551615⟩, ⟨3, "a\" #\\", 1⟩]
  spans := [⟨"nobody's", 18446744073709551615, 0, "\r\t#"⟩]
  arrows := [
    ⟨⟨"", 7, 0⟩, ⟨"a\" #\\", 0, 18446744073709551615⟩, some "\":L # ->", -9223372036854775808,
      .left, .dashed⟩,
    ⟨⟨"nobody's", 0, 1⟩, ⟨"", 1, 1⟩, none, 0, .right, .solid⟩]

theorem draft_thornyDiagram :
    thornyDiagram.Printable ∧
      ∀ mode, { Settings.standard with mode }.draft thornyDiagram.source =
        .ok ⟨thornyDiagram.markup Config.standard, []⟩ := by
  have printable : thornyDiagram.Printable := by decide
  refine ⟨printable, fun mode => ?_⟩
  exact reading_undoes_printing thornyDiagram printable { Settings.standard with mode }

end Chronogram
