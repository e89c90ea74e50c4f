import Chronogram.Layout.Page
import Chronogram.Proofs.Diagram.RoundTrip
import Chronogram.Proofs.Layout.Attachment

/-!
What layout accepts.

Layout fails with the first of the faults of a time line, and it succeeds exactly if everything that
the time line refers to is there. References are looked up by name among the boxes; as the boxes
have the names of the lifelines and these are distinct, the box that is found is the one of the
lifeline.
-/

namespace Chronogram

variable {α : Type}

namespace LifelineBox

theorem lastNamed?_eq_find? {boxes : List (LifelineBox α)}
    (distinct : (boxes.map LifelineBox.name).Nodup) (name : String) :
    lastNamed? boxes name = boxes.find? fun box => box.name = name := by
  unfold lastNamed?
  induction boxes with
  | nil => rfl
  | cons box rest inductionHypothesis =>
      rw [List.map_cons, List.nodup_cons] at distinct
      obtain ⟨fresh, distinctRest⟩ := distinct
      rw [List.reverse_cons, List.find?_append, inductionHypothesis distinctRest, List.find?_cons]
      by_cases same : box.name = name
      · have missing : (rest.find? fun other => other.name = name) = none := by
          refine List.find?_eq_none.mpr fun other membership => ?_
          have differs : other.name ≠ name := fun equal =>
            fresh (List.mem_map.mpr ⟨other, membership, equal.trans same.symm⟩)
          simpa using differs
        simp [same, missing]
      · simp [same]

variable [Scalar α] {timeline : Timeline} {grid : Grid α} {boxes : List (LifelineBox α)}

/-- The boxes of some entries are found under the same names as the entries. -/
theorem rel_find? {entries : List (String × Lifeline)}
    (named : ∀ entry ∈ entries, entry.2.name = entry.1)
    (fitting : List.Forall₂ (Fits timeline grid) (entries.map Prod.snd) boxes) (name : String) :
    Option.Rel (Fits timeline grid) (entries.lookup name)
      (boxes.find? fun box => box.name = name) := by
  induction entries generalizing boxes with
  | nil =>
      cases fitting
      exact .none
  | cons entry rest inductionHypothesis =>
      obtain ⟨namedFirst, namedRest⟩ := List.forall_mem_cons.mp named
      obtain ⟨key, lifeline⟩ := entry
      cases fitting with
      | cons fits remaining =>
          have sameKey : lifeline.name = key := namedFirst
          rw [List.lookup_cons, List.find?_cons, fits.name, sameKey]
          by_cases same : key = name
          · simpa [same] using Option.Rel.some fits
          · have differs : (name == key) = false := by simpa using fun equal => same equal.symm
            simp only [differs, same, decide_false]
            exact inductionHypothesis namedRest remaining

theorem names_eq {entries : List (String × Lifeline)}
    (named : ∀ entry ∈ entries, entry.2.name = entry.1)
    (fitting : List.Forall₂ (Fits timeline grid) (entries.map Prod.snd) boxes) :
    boxes.map LifelineBox.name = entries.map Prod.fst := by
  induction entries generalizing boxes with
  | nil =>
      cases fitting
      rfl
  | cons entry rest inductionHypothesis =>
      obtain ⟨namedFirst, namedRest⟩ := List.forall_mem_cons.mp named
      cases fitting with
      | cons fits remaining =>
          rw [List.map_cons, List.map_cons, fits.name, namedFirst,
            inductionHypothesis namedRest remaining]

/-- Boxes that belong to the lifelines of a time line. -/
structure Belong (timeline : Timeline) (grid : Grid α) (boxes : List (LifelineBox α)) : Prop where
  named : ∀ entry ∈ timeline.lifelines.entries, entry.2.name = entry.1
  fitting : List.Forall₂ (Fits timeline grid) timeline.lifelines.values boxes

namespace Belong

variable (belong : Belong timeline grid boxes)

include belong

theorem lastNamed?_eq (name : String) :
    lastNamed? boxes name = boxes.find? fun box => box.name = name := by
  apply lastNamed?_eq_find?
  rw [names_eq belong.named belong.fitting]
  exact timeline.lifelines.nodup

theorem find?_eq_none {name : String} (missing : timeline.lifelines.get? name = none) :
    (boxes.find? fun box => box.name = name) = none := by
  have related := rel_find? belong.named belong.fitting name
  change timeline.lifelines.entries.lookup name = none at missing
  rw [missing] at related
  generalize (boxes.find? fun box => box.name = name) = found at related
  cases related
  rfl

theorem find?_eq_some {name : String} {lifeline : Lifeline}
    (declared : timeline.lifelines.get? name = some lifeline) :
    ∃ box, (boxes.find? fun box => box.name = name) = some box ∧
      Fits timeline grid lifeline box := by
  have related := rel_find? belong.named belong.fitting name
  change timeline.lifelines.entries.lookup name = some lifeline at declared
  rw [declared] at related
  generalize (boxes.find? fun box => box.name = name) = found at related
  cases related with
  | some fits => exact ⟨_, rfl, fits⟩

theorem fault?_resolve (referrer : Referrer) (name : String) (tick : Nat) :
    fault? (resolve boxes timeline.tickCount referrer name tick) =
      timeline.tickFault? referrer name tick := by
  unfold resolve Timeline.tickFault?
  rw [belong.lastNamed?_eq]
  cases declared : timeline.lifelines.get? name with
  | none =>
      have absent := Table.get?_eq_none_iff.mp declared
      simp [belong.find?_eq_none declared, absent]
  | some lifeline =>
      obtain ⟨box, found, -⟩ := belong.find?_eq_some declared
      have known := Table.mem_keys_of_get? declared
      by_cases within : tick < timeline.tickCount
      · simp [found, known, within]
      · simp [found, known, within, Nat.le_of_not_lt within]

theorem of_resolve {referrer : Referrer} {name : String} {tick : Nat} {box : LifelineBox α}
    (resolved : resolve boxes timeline.tickCount referrer name tick = .ok box) :
    (boxes.find? fun box => box.name = name) = some box ∧
      ∃ lifeline points, timeline.lifelines.get? name = some lifeline ∧
        box.attachments[tick]? = some points ∧
        points.length = timeline.attachmentCount lifeline tick := by
  have fine : timeline.tickFault? referrer name tick = none := by
    rw [← belong.fault?_resolve, resolved]
    rfl
  obtain ⟨known, within⟩ := Timeline.tickFault?_eq_none_iff.mp fine
  obtain ⟨lifeline, declared⟩ := Table.exists_get? known
  obtain ⟨fitted, found, fits⟩ := belong.find?_eq_some declared
  unfold resolve at resolved
  rw [belong.lastNamed?_eq, found] at resolved
  simp only [within, ↓reduceIte, Except.ok.injEq] at resolved
  subst resolved
  have reached : tick < fitted.attachments.length := by
    rw [fits.ticks]
    exact within
  have offered := List.getElem?_eq_getElem reached
  exact ⟨found, lifeline, _, declared, offered, (fits.points tick _ offered).1⟩

theorem fault?_attachment (arrowEnd : ArrowEnd) :
    fault? (attachment boxes timeline.tickCount arrowEnd) = timeline.endFault? arrowEnd := by
  have fails := belong.fault?_resolve .arrow arrowEnd.lifeline arrowEnd.tick
  unfold attachment Timeline.endFault?
  rw [← fails]
  cases resolved : resolve boxes timeline.tickCount .arrow arrowEnd.lifeline arrowEnd.tick with
  | error fault => rfl
  | ok box =>
      obtain ⟨-, lifeline, points, declared, offered, count⟩ := belong.of_resolve resolved
      simp only [offered, declared, Option.getD_some, fault?_ok, Option.none_or, Option.bind_some,
        Timeline.slotFault?, ← count]
      by_cases within : arrowEnd.slot < points.length
      · simp [within, Nat.not_le_of_lt within]
      · simp [Nat.le_of_not_lt within]

theorem of_attachment {arrowEnd : ArrowEnd} {point : Point α}
    (attached : attachment boxes timeline.tickCount arrowEnd = .ok point) :
    ∃ box points, (boxes.find? fun box => box.name = arrowEnd.lifeline) = some box ∧
      box.attachments[arrowEnd.tick]? = some points ∧ points[arrowEnd.slot]? = some point := by
  unfold attachment at attached
  cases resolved : resolve boxes timeline.tickCount .arrow arrowEnd.lifeline arrowEnd.tick with
  | error fault => simp [resolved] at attached
  | ok box =>
      obtain ⟨found, lifeline, points, -, offered, -⟩ := belong.of_resolve resolved
      simp only [resolved, offered, Option.getD_some] at attached
      cases here : points[arrowEnd.slot]? with
      | none => simp [here] at attached
      | some candidate =>
          simp only [here, Except.ok.injEq] at attached
          exact ⟨box, points, found, offered, attached ▸ here⟩

theorem fault?_span (gridCount : grid.tickCount = timeline.tickCount) (span : Span) :
    fault? (SpanLayout.layout boxes grid span) = (timeline.spanFaults span).head? := by
  unfold SpanLayout.layout Timeline.spanFaults
  rw [gridCount]
  refine fault?_bind ?_ fun box _ => fault?_bind_ok ?_
  · rw [belong.fault?_resolve, Option.head?_toList]
  · rw [belong.fault?_resolve, Option.head?_toList]

theorem fault?_arrow (arrow : Arrow) :
    fault? (ArrowLayout.layout boxes timeline.tickCount arrow) =
      (timeline.arrowFaults arrow).head? := by
  unfold ArrowLayout.layout Timeline.arrowFaults
  refine fault?_bind ?_ fun start _ => fault?_bind_ok ?_
  · rw [belong.fault?_attachment, Option.head?_toList]
  · rw [belong.fault?_attachment, Option.head?_toList]

end Belong

end LifelineBox

namespace Page

variable [Scalar α]

def grid (page : Page α) : Grid α :=
  ⟨page.gridBase, page.tickWidth, page.tickCount⟩

def attachment? (page : Page α) (arrowEnd : ArrowEnd) : Option (Point α) := do
  let box ← page.lifeline? arrowEnd.lifeline
  let points ← box.attachments[arrowEnd.tick]?
  points[arrowEnd.slot]?

variable {timeline : Timeline} {grid : Grid α}

theorem fault?_stack {lifelines : List Lifeline}
    (declared : ∀ lifeline ∈ lifelines, lifeline.name ∈ timeline.lifelines.keys) (top : α) :
    fault? (stack timeline grid top lifelines) =
      (lifelines.flatMap timeline.stateFaults).head? := by
  induction lifelines generalizing top with
  | nil => rfl
  | cons lifeline rest inductionHypothesis =>
      obtain ⟨known, knownRest⟩ := List.forall_mem_cons.mp declared
      unfold stack
      rw [List.flatMap_cons]
      refine fault?_bind (LifelineBox.fault?_layout known top _) fun box _ => ?_
      exact fault?_bind_ok (inductionHypothesis knownRest _)

theorem placed_of_stack {lifelines : List Lifeline} {top next : α} {boxes : List (LifelineBox α)}
    (stacked : stack timeline grid top lifelines = .ok (boxes, next)) :
    List.Forall₂ (fun lifeline box => ∃ top, LifelineBox.Placed lifeline
      (timeline.column lifeline.name) grid top (px leftPad) box) lifelines boxes := by
  induction lifelines generalizing top boxes with
  | nil =>
      cases stacked
      exact .nil
  | cons lifeline rest inductionHypothesis =>
      unfold stack at stacked
      obtain ⟨box, laidOut, remaining⟩ := bind_eq_ok_iff.mp stacked
      obtain ⟨⟨others, last⟩, stackedRest, same⟩ := bind_eq_ok_iff.mp remaining
      cases same
      exact .cons ⟨top, LifelineBox.placed_of_layout laidOut⟩ (inductionHypothesis stackedRest)

/-- What stands on a page that a time line was laid out to. -/
structure Shows (timeline : Timeline) (page : Page α) : Prop where
  title : page.title.text = timeline.title
  tickCount : page.tickCount = timeline.tickCount
  lifelines : List.Forall₂ (fun lifeline box => ∃ top, LifelineBox.Placed lifeline
    (timeline.column lifeline.name) page.grid top (px leftPad) box)
    timeline.lifelines.values page.lifelines
  spans : timeline.spans.mapM (SpanLayout.layout page.lifelines page.grid) = .ok page.spans
  arrows : timeline.arrows.mapM (ArrowLayout.layout page.lifelines timeline.tickCount) =
    .ok page.arrows
  legend : ∃ y, page.legend = Legend.layout timeline page.grid y

theorem shows_of_layout {measurer : Measurer α} {page : Page α}
    (laidOut : layout measurer timeline = .ok page) : Shows timeline page := by
  unfold layout at laidOut
  obtain ⟨⟨boxes, height⟩, stacked, remaining⟩ := bind_eq_ok_iff.mp laidOut
  obtain ⟨spans, spanned, remaining⟩ := bind_eq_ok_iff.mp remaining
  obtain ⟨arrows, joined, same⟩ := bind_eq_ok_iff.mp remaining
  cases same
  exact ⟨rfl, rfl, placed_of_stack stacked, spanned, joined, _, rfl⟩

theorem tickWidth_of_layout {measurer : Measurer α} {page : Page α}
    (laidOut : layout measurer timeline = .ok page) :
    page.tickWidth = Scalar.ofFloat timeline.config.tickWidth := by
  unfold layout at laidOut
  obtain ⟨⟨boxes, height⟩, stacked, remaining⟩ := bind_eq_ok_iff.mp laidOut
  obtain ⟨spans, spanned, remaining⟩ := bind_eq_ok_iff.mp remaining
  obtain ⟨arrows, joined, same⟩ := bind_eq_ok_iff.mp remaining
  cases same
  rfl

variable (named : ∀ entry ∈ timeline.lifelines.entries, entry.2.name = entry.1)
  {measurer : Measurer α}

include named

theorem names_declared :
    ∀ lifeline ∈ timeline.lifelines.values, lifeline.name ∈ timeline.lifelines.keys := by
  intro lifeline membership
  obtain ⟨entry, stored, rfl⟩ := List.mem_map.mp membership
  rw [named entry stored]
  exact List.mem_map_of_mem stored

theorem belong_of_placed {grid : Grid α} {boxes : List (LifelineBox α)}
    (placed : List.Forall₂ (fun lifeline box => ∃ top, LifelineBox.Placed lifeline
      (timeline.column lifeline.name) grid top (px leftPad) box)
      timeline.lifelines.values boxes) :
    LifelineBox.Belong timeline grid boxes := by
  refine ⟨named, ((List.forall₂_and_left _ _).mpr ⟨names_declared named, placed⟩).imp ?_⟩
  rintro lifeline box ⟨declared, top, placedHere⟩
  exact placedHere.fits declared

/-- Layout fails with the first fault of the time line. -/
theorem fault?_layout : fault? (layout measurer timeline) = timeline.faults.head? := by
  have declared := names_declared named
  unfold layout Timeline.faults
  refine fault?_bind (fault?_stack declared _) fun stacked laidOut => ?_
  obtain ⟨boxes, height⟩ := stacked
  -- Spans and arrows are looked at only when all boxes are there.
  have belong : LifelineBox.Belong timeline (gridOf measurer timeline) boxes :=
    belong_of_placed named (placed_of_stack laidOut)
  refine fault?_bind (fault?_mapM fun span _ => belong.fault?_span rfl span) fun spans _ => ?_
  exact fault?_bind_ok (fault?_mapM fun arrow _ => belong.fault?_arrow arrow)

/-- A time line is laid out to a page if everything that it refers to is there, and only then. -/
theorem exists_layout_iff : (∃ page, layout measurer timeline = .ok page) ↔ timeline.Resolves := by
  rw [← fault?_eq_none_iff, fault?_layout named, List.head?_eq_none_iff,
    Timeline.faults_eq_nil_iff]

theorem exists_layout (fine : timeline.faults = []) :
    ∃ page, layout measurer timeline = .ok page :=
  (exists_layout_iff named).mpr (Timeline.faults_eq_nil_iff.mp fine)

/-- The boxes of a page belong to the lifelines, and its arrows are laid out between them. -/
theorem of_layout {page : Page α} (laidOut : layout measurer timeline = .ok page) :
    LifelineBox.Belong timeline page.grid page.lifelines ∧
      timeline.arrows.mapM (ArrowLayout.layout page.lifelines timeline.tickCount) =
        .ok page.arrows := by
  have shows := shows_of_layout laidOut
  exact ⟨belong_of_placed named shows.lifelines, shows.arrows⟩

theorem arrows_of_layout {page : Page α} (laidOut : layout measurer timeline = .ok page) :
    List.Forall₂ (fun arrow drawn => page.attachment? arrow.origin = some drawn.start ∧
      page.attachment? arrow.dest = some drawn.finish) timeline.arrows page.arrows := by
  obtain ⟨belong, joined⟩ := of_layout named laidOut
  have attached : ∀ {arrowEnd point},
      LifelineBox.attachment page.lifelines timeline.tickCount arrowEnd = .ok point →
        page.attachment? arrowEnd = some point := by
    intro arrowEnd point attached
    obtain ⟨box, points, found, offered, here⟩ := belong.of_attachment attached
    simp [attachment?, lifeline?, found, offered, here]
  refine (forall₂_of_mapM joined).imp fun arrow drawn between => ?_
  obtain ⟨start, fromStart, remaining⟩ := bind_eq_ok_iff.mp between
  obtain ⟨finish, toFinish, same⟩ := bind_eq_ok_iff.mp remaining
  cases same
  exact ⟨attached fromStart, attached toFinish⟩

end Page

/-- Layout accepts exactly the diagrams whose references resolve, and it refuses the others with the
first reference that does not. On a page the boxes offer the points that were counted, all of them
at the position of their tick, and each arrow runs between the points that it names. -/
theorem layout_accepts_resolving [Scalar α] (settings : Settings) (text : String) (draft : Draft)
    (parsed : settings.draft text = .ok draft) (measurer : Measurer α) :
    ((∃ page, Page.layout measurer draft.diagram.timeline = .ok page) ↔
      draft.diagram.timeline.Resolves) ∧
    (∀ fault, Page.layout measurer draft.diagram.timeline = .error fault ↔
      draft.diagram.timeline.faults.head? = some fault) ∧
    (∀ page, Page.layout measurer draft.diagram.timeline = .ok page →
      List.Forall₂ (fun arrow drawn => page.attachment? arrow.origin = some drawn.start ∧
        page.attachment? arrow.dest = some drawn.finish)
        draft.diagram.timeline.arrows page.arrows ∧
      List.Forall₂ (LifelineBox.Fits draft.diagram.timeline page.grid)
        draft.diagram.timeline.lifelines.values page.lifelines) := by
  have named : ∀ entry ∈ draft.diagram.timeline.lifelines.entries, entry.2.name = entry.1 :=
    settings.named_draft parsed
  have fails : fault? (Page.layout measurer draft.diagram.timeline) =
      draft.diagram.timeline.faults.head? := Page.fault?_layout named
  refine ⟨?_, fun fault => ?_, fun page laidOut => ⟨?_, ?_⟩⟩
  · rw [← fault?_eq_none_iff, fails, List.head?_eq_none_iff, Timeline.faults_eq_nil_iff]
  · rw [← fault?_eq_some_iff, fails]
  · exact Page.arrows_of_layout named laidOut
  · exact (Page.of_layout named laidOut).1.fitting

/-- A diagram with a staircase that steps and a bus whose rails meet. -/
def joinedDiagram : Diagram where
  title := "Evening"
  config := Config.standard
  lifelines :=
    ⟨[("door", ⟨"door", .normal, ⟨[some "open", none, some "shut"]⟩⟩),
      ("lamp", ⟨"lamp", .simplified, ⟨[]⟩⟩)], by decide⟩
  ticks := [⟨1, "door", 2⟩, ⟨2, "lamp", 5⟩]
  spans := [⟨"lamp", 0, 2, "dusk"⟩]
  arrows := [⟨⟨"door", 1, 1⟩, ⟨"lamp", 2, 0⟩, some "light", 50, .right, .solid⟩]

theorem layout_joinedDiagram :
    Settings.standard.draft joinedDiagram.source =
        .ok ⟨joinedDiagram.markup Config.standard, []⟩ ∧
      ∃ page, Page.layout FontMetrics.standard.measurer
        (joinedDiagram.markup Config.standard).timeline = .ok page := by
  have printable : joinedDiagram.Printable := by decide
  have parsed : Settings.standard.draft joinedDiagram.source =
      .ok ⟨joinedDiagram.markup Config.standard, []⟩ :=
    Settings.standard.draft_textOf (Diagram.writable_statements printable)
      (Diagram.foldlM_statements printable Config.standard)
  have resolves : (joinedDiagram.markup Config.standard).timeline.Resolves :=
    Timeline.faults_eq_nil_iff.mp (by decide +kernel)
  refine ⟨parsed, ?_⟩
  exact (layout_accepts_resolving Settings.standard joinedDiagram.source _ parsed
    FontMetrics.standard.measurer).1.mpr resolves

end Chronogram
