import Chronogram.Proofs.Diagram.WellBuilt
import Chronogram.Proofs.Diagram.Wording

/-!
The texts of a diagram stand on one line.

While a text is read, everything that comes into the diagram is a field of a line. Fields hold no line
feed, and none comes in when they are escaped. So the title, the names and the labels of a diagram
have none either.
-/

namespace Chronogram

open Source Text

/-- A diagram whose texts have no line feeds. -/
structure Diagram.InLine (diagram : Diagram) : Prop where
  title : OneLine diagram.title
  lifelines : ∀ entry ∈ diagram.lifelines.entries, ∀ text ∈ entry.2.texts, OneLine text
  spans : ∀ span ∈ diagram.spans, ∀ text ∈ span.texts, OneLine text
  arrows : ∀ arrow ∈ diagram.arrows, ∀ text ∈ arrow.texts, OneLine text

theorem Lifeline.oneLine_relabel {lifeline : Lifeline} {label : String} (index : Nat)
    (inLine : ∀ text ∈ lifeline.texts, OneLine text) (oneLine : OneLine label) :
    ∀ text ∈ Lifeline.texts { lifeline with states := lifeline.states.insert index label },
      OneLine text := by
  obtain ⟨name, labels⟩ := List.forall_mem_cons.mp inLine
  refine List.forall_mem_cons.mpr ⟨name, ?_⟩
  simp only [Catalog.map_snd_labels, List.reduceOption_mem_iff] at labels ⊢
  intro other stored
  rcases Catalog.mem_slots_insert stored with rfl | earlier
  · exact oneLine
  · exact labels other earlier

namespace Diagram

theorem oneLine_of_endOf {fields : EndFields} {arrowEnd : ArrowEnd}
    (feedless : '\n' ∉ fields.lifeline.toList) (read : endOf fields = .ok arrowEnd) :
    OneLine arrowEnd.lifeline := by
  obtain ⟨tick, -, remaining⟩ := bind_eq_ok_iff.mp read
  obtain ⟨slot, -, given⟩ := bind_eq_ok_iff.mp remaining
  cases given
  exact oneLine_fieldMarkup feedless

theorem oneLine_of_arrowOf {fields : ArrowFields} {arrow : Arrow}
    (feedless : ∀ entry ∈ fields.fields, '\n' ∉ entry.2) (read : arrowOf fields = .ok arrow) :
    ∀ text ∈ arrow.texts, OneLine text := by
  have origin : '\n' ∉ fields.origin.lifeline.toList :=
    feedless (2, fields.origin.lifeline.toList) (by simp [ArrowFields.fields, EndFields.fields])
  have dest : '\n' ∉ fields.dest.lifeline.toList :=
    feedless (6, fields.dest.lifeline.toList) (by simp [ArrowFields.fields, EndFields.fields])
  have label : ∀ given ∈ fields.label, '\n' ∉ given.text.toList := by
    intro given labelled
    apply feedless (8, given.text.toList)
    simp [ArrowFields.fields, LabelFields.fields, Option.mem_def.mp labelled]
  obtain ⟨position, -, remaining⟩ := bind_eq_ok_iff.mp read
  obtain ⟨start, readOrigin, remaining⟩ := bind_eq_ok_iff.mp remaining
  obtain ⟨finish, readDest, given⟩ := bind_eq_ok_iff.mp remaining
  cases given
  refine List.forall_mem_cons.mpr ⟨oneLine_of_endOf origin readOrigin, ?_⟩
  refine List.forall_mem_cons.mpr ⟨oneLine_of_endOf dest readDest, ?_⟩
  intro text labelled
  obtain ⟨given, stands, rfl⟩ := Option.map_eq_some_iff.mp (Option.mem_toList.mp labelled)
  exact oneLine_fieldMarkup (label given stands)

namespace InLine

variable {diagram next : Diagram}

theorem blank (config : Config) : (Diagram.blank config).InLine where
  title := (by decide : OneLine defaultTitle)
  lifelines := by simp [Diagram.blank, Table.empty]
  spans := by simp [Diagram.blank]
  arrows := by simp [Diagram.blank]

theorem modifyLifeline (inLine : diagram.InLine) (name : String) {f : Lifeline → Lifeline}
    (kept : ∀ lifeline, (∀ text ∈ lifeline.texts, OneLine text) →
      ∀ text ∈ (f lifeline).texts, OneLine text) :
    (diagram.modifyLifeline name f).InLine :=
  { inLine with
    lifelines := Table.forall_modify
      (fun _ (lifeline : Lifeline) => ∀ text ∈ lifeline.texts, OneLine text) inLine.lifelines kept }

/-- The texts that a statement brings in are fields of it. -/
theorem effect {statement : Statement} (effect : diagram.Effect statement next)
    (feedless : statement.Feedless) (inLine : diagram.InLine) : next.InLine := by
  have field : ∀ (number : Nat) {raw : String}, (number, raw.toList) ∈ statement.fields →
      OneLine (fieldMarkup raw) := fun _ _ stands => oneLine_fieldMarkup (feedless _ stands)
  cases effect with
  | keepConfig | keepLifeline | configure | observe => exact { inLine with }
  | entitle text => exact { inLine with title := field 1 (by simp [Statement.fields]) }
  | declare name fresh =>
      have named : OneLine (fieldMarkup name) := field 1 (by simp [Statement.fields])
      exact { inLine with
        lifelines := Table.forall_append
          (fun _ (lifeline : Lifeline) => ∀ text ∈ lifeline.texts, OneLine text) fresh
          inLine.lifelines (List.forall_mem_singleton.mpr named) }
  | restyle name _ style => exact inLine.modifyLifeline _ fun _ texts => texts
  | relabel name label _ index =>
      have labelled : OneLine (fieldMarkup label) := field 2 (by simp [Statement.fields])
      exact inLine.modifyLifeline _ fun _ texts => Lifeline.oneLine_relabel index texts labelled
  | addSpan name _ _ label originTick destTick =>
      have named : OneLine (fieldMarkup name) := field 1 (by simp [Statement.fields])
      have labelled : OneLine (fieldMarkup label) := field 4 (by simp [Statement.fields])
      have last : ∀ text ∈ [fieldMarkup name, fieldMarkup label], OneLine text :=
        List.forall_mem_cons.mpr ⟨named, List.forall_mem_singleton.mpr labelled⟩
      exact { inLine with
        spans := List.forall_mem_append.mpr
          ⟨inLine.spans, List.forall_mem_singleton.mpr last⟩ }
  | addArrow fields arrow read =>
      have last := oneLine_of_arrowOf feedless read
      exact { inLine with
        arrows := List.forall_mem_append.mpr
          ⟨inLine.arrows, List.forall_mem_singleton.mpr last⟩ }

theorem step {mode : Mode} {draft final : Draft} {line : Line} {kind : Option StatementKind}
    (oneLine : OneLine line.text) (taken : draft.step mode line = .ok (final, kind))
    (inLine : draft.diagram.InLine) : final.diagram.InLine := by
  unfold Draft.step at taken
  cases read : Statement.read? line.text with
  | some statement =>
      cases applied : draft.diagram.apply statement with
      | error fault => simp [read, applied] at taken
      | ok diagram =>
          simp only [read, applied, Except.ok.injEq, Prod.mk.injEq] at taken
          obtain ⟨rfl, -⟩ := taken
          exact effect (effect_of_apply applied) (Statement.feedless_of_read? oneLine read) inLine
  | none =>
      cases mode with
      | strict => simp [read] at taken
      | lenient =>
          simp only [read, Except.ok.injEq, Prod.mk.injEq] at taken
          obtain ⟨rfl, -⟩ := taken
          exact inLine

theorem steps {mode : Mode} {draft final : Draft} {lines : List Line}
    (oneLine : ∀ line ∈ lines, OneLine line.text) (taken : Draft.steps mode draft lines = .ok final)
    (inLine : draft.diagram.InLine) : final.diagram.InLine := by
  induction lines generalizing draft with
  | nil =>
      cases taken
      exact inLine
  | cons line rest inductionHypothesis =>
      obtain ⟨first, others⟩ := List.forall_mem_cons.mp oneLine
      unfold Draft.steps at taken
      cases stepped : draft.step mode line with
      | error fault => simp [stepped] at taken
      | ok answer =>
          simp only [stepped] at taken
          exact inductionHypothesis others taken (step first stepped inLine)

end InLine

end Diagram

/-- The texts of a diagram that is read from a text have no line feeds. -/
theorem Settings.inLine_draft {settings : Settings} {text : String} {draft : Draft}
    (parsed : settings.draft text = .ok draft) : draft.diagram.InLine :=
  .steps (fun _ => oneLine_of_mem_script) parsed (.blank settings.site)

end Chronogram
