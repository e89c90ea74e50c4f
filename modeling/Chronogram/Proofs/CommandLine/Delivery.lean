import Chronogram.CommandLine.Session
import Chronogram.Proofs.CommandLine.Arguments
import Chronogram.Proofs.CommandLine.Paths
import Chronogram.Proofs.Json
import Chronogram.Proofs.Layout.Wording
import Chronogram.Proofs.Report

/-!
A run delivers everything or nothing.

What the options ask of a text is stated apart from the session, by the stages of a compilation: a
JSON text that is read back as a draft, a time line or a page; the document of the text; or what a
painter makes of this document. A session comes to such a product or to the fault of a stage. So a
run either delivers one whole product to one place, or it says what went wrong and leaves everything
as it was, whatever the painter does.
-/

namespace Chronogram.CommandLine

/-- A JSON text and the end of its last line. -/
def HoldsJson (spaced : Bool) (content : String) (value : Json) : Prop :=
  ∃ body, content.toList = body ++ ['\n'] ∧ Json.Spells spaced body value

namespace Options

/-- The compilation that the options ask for, with the default layout. -/
def compilation (options : Options) : Settings :=
  ⟨Config.standard, if options.strict then .strict else .lenient, FontMetrics.standard,
    options.rootId⟩

section Asked

variable {Image : Type} (paint : Raster.Painter Image) (options : Options) (text : String)

/-- What the options ask for. -/
inductive Makes : Artifact Image → Prop where
  | draft {draft : Draft} {content : String} {value : Json} (command : options.command = .parse)
      (read : options.compilation.draft text = .ok draft)
      (json : HoldsJson options.pretty content value) (means : Draft.ofReport? value = some draft) :
      Makes (.text content)
  | timeline {draft : Draft} {content : String} {value : Json}
      (command : options.command = .process) (read : options.compilation.draft text = .ok draft)
      (json : HoldsJson options.pretty content value)
      (means : Timeline.ofReportWith? value = some (draft.diagram.timeline, draft.warnings)) :
      Makes (.text content)
  | page {page : Page Float} {content : String} {value : Json} (command : options.command = .layout)
      (laidOut : options.compilation.page text = .ok page)
      (json : HoldsJson options.pretty content value) (means : Page.ofReport? value = some page) :
      Makes (.text content)
  | document {document : String} (command : options.command = .render)
      (format : options.format = .svg) (drawn : options.compilation.svg text = .ok document) :
      Makes (.text document)
  | image {document : String} {image : Image} (command : options.command = .render)
      (format : options.format = .png) (drawn : options.compilation.svg text = .ok document)
      (painted : paint ⟨options.scale, options.background⟩ document = .ok image) :
      Makes (.image image)

/-- Why it cannot be made. -/
inductive Misses : SessionFault → Prop where
  | source {fault : LineFault} (command : options.command = .parse ∨ options.command = .process)
      (failed : options.compilation.draft text = .error fault) : Misses (.compile (.source fault))
  | page {fault : CompileFault} (command : options.command = .layout ∨ options.command = .render)
      (failed : options.compilation.page text = .error fault) : Misses (.compile fault)
  | image {document : String} {fault : Raster.ImageFault} (command : options.command = .render)
      (format : options.format = .png) (drawn : options.compilation.svg text = .ok document)
      (failed : paint ⟨options.scale, options.background⟩ document = .error fault) :
      Misses (.image fault)

end Asked

/-- Where it goes: reports to the standard output, pictures where the options say. An image without
a destination goes next to its input, under the same name with another extension. -/
inductive GoesTo (options : Options) : Destination → Prop where
  | report (command : options.command ≠ .render) : GoesTo options .standardOutput
  | document (command : options.command = .render) (format : options.format = .svg)
      (out : options.out = none ∨ options.out = some "-") : GoesTo options .standardOutput
  | documentFile (path : String) (command : options.command = .render)
      (format : options.format = .svg) (out : options.out = some path) (named : path ≠ "-") :
      GoesTo options (.file path)
  | image (command : options.command = .render) (format : options.format = .png)
      (out : options.out = some "-") : GoesTo options .standardOutput
  | imageFile (path : String) (command : options.command = .render)
      (format : options.format = .png) (out : options.out = some path) (named : path ≠ "-") :
      GoesTo options (.file path)
  | imageBeside (path : String) (command : options.command = .render)
      (format : options.format = .png) (out : options.out = none)
      (input : options.input = some path) (named : path ≠ "-") :
      GoesTo options (.file (Path.withExtension path "png"))
  | imageHere (command : options.command = .render) (format : options.format = .png)
      (out : options.out = none) (input : options.input = none ∨ options.input = some "-") :
      GoesTo options (.file "out.png")

/-! ### Destinations -/

theorem withExtension_ne_dash {path : String} (named : path ≠ "-") (ext : String) :
    Path.withExtension path ext ≠ "-" := by
  have dotless : '.' ∉ "-".toList := by decide
  unfold Path.withExtension
  dsimp only
  split
  · exact named
  · split
    all_goals
      intro same
      apply dotless
      rw [← same, String.toList_ofList]
      simp

theorem imagePath_of_named {path : String} (named : path ≠ "-") :
    imagePath (some path) = Path.withExtension path "png" :=
  if_neg named

theorem imagePath_of_unnamed {input : Option String}
    (unnamed : input = none ∨ input = some "-") : imagePath input = "out.png" := by
  rcases unnamed with rfl | rfl <;> rfl

theorem named_or_unnamed (input : Option String) :
    (∃ path, input = some path ∧ path ≠ "-") ∨ input = none ∨ input = some "-" := by
  cases input with
  | none => exact .inr (.inl rfl)
  | some path =>
      by_cases dash : path = "-"
      · exact .inr (.inr (congrArg some dash))
      · exact .inl ⟨path, rfl, dash⟩

theorem imagePath_ne_dash (input : Option String) : imagePath input ≠ "-" := by
  rcases named_or_unnamed input with ⟨path, rfl, named⟩ | unnamed
  · rw [imagePath_of_named named]
    exact withExtension_ne_dash named "png"
  · rw [imagePath_of_unnamed unnamed]
    decide

variable {options : Options}

theorem destination_of_goesTo_report (command : options.command ≠ .render)
    {destination : Destination} (goes : options.GoesTo destination) :
    destination = .standardOutput := by
  cases goes with
  | report => rfl
  | document isRender | documentFile _ isRender | image isRender | imageFile _ isRender
  | imageBeside _ isRender | imageHere isRender => exact False.elim (command isRender)

theorem goesTo_document_iff (command : options.command = .render) (format : options.format = .svg)
    {destination : Destination} :
    options.GoesTo destination ↔ destination = options.documentDestination := by
  unfold documentDestination
  constructor
  · intro goes
    cases goes with
    | report isReport => exact False.elim (isReport command)
    | document _ _ out => rcases out with out | out <;> simp [out, destinationOf]
    | documentFile path _ _ out named => simp [out, destinationOf, named]
    | image _ isImage | imageFile _ _ isImage | imageBeside _ _ isImage | imageHere _ isImage =>
        simp [format] at isImage
  · rintro rfl
    cases out : options.out with
    | none => exact .document command format (.inl out)
    | some path =>
        by_cases dash : path = "-"
        · subst dash
          exact .document command format (.inr out)
        · simpa [destinationOf, dash] using GoesTo.documentFile path command format out dash

/-- An image next to its input is never meant for the standard output. -/
theorem imageDestination_of_undirected (undirected : options.out = none) :
    options.imageDestination = .file (imagePath options.input) := by
  rw [imageDestination, undirected]
  exact if_neg (imagePath_ne_dash options.input)

theorem goesTo_image_iff (command : options.command = .render) (format : options.format = .png)
    {destination : Destination} :
    options.GoesTo destination ↔ destination = options.imageDestination := by
  constructor
  · intro goes
    cases goes with
    | report isReport => exact False.elim (isReport command)
    | document _ isDocument | documentFile _ _ isDocument => simp [format] at isDocument
    | image _ _ out => simp [imageDestination, out, destinationOf]
    | imageFile path _ _ out named => simp [imageDestination, out, destinationOf, named]
    | imageBeside path _ _ out input named =>
        rw [imageDestination_of_undirected out, input, imagePath_of_named named]
    | imageHere _ _ out unnamed =>
        rw [imageDestination_of_undirected out, imagePath_of_unnamed unnamed]
  · rintro rfl
    cases out : options.out with
    | none =>
        rw [imageDestination_of_undirected out]
        rcases named_or_unnamed options.input with ⟨path, input, named⟩ | unnamed
        · rw [input, imagePath_of_named named]
          exact .imageBeside path command format out input named
        · rw [imagePath_of_unnamed unnamed]
          exact .imageHere command format out unnamed
    | some path =>
        rw [imageDestination, out]
        by_cases dash : path = "-"
        · subst dash
          exact .image command format out
        · simpa [destinationOf, dash] using GoesTo.imageFile path command format out dash

theorem GoesTo.unique {first second : Destination} (goes : options.GoesTo first)
    (goes' : options.GoesTo second) : first = second := by
  by_cases command : options.command = .render
  · cases format : options.format with
    | svg =>
        have chosen := (goesTo_document_iff command format).mp goes
        exact chosen.trans ((goesTo_document_iff command format).mp goes').symm
    | png =>
        have chosen := (goesTo_image_iff command format).mp goes
        exact chosen.trans ((goesTo_image_iff command format).mp goes').symm
  · have chosen := destination_of_goesTo_report command goes
    exact chosen.trans (destination_of_goesTo_report command goes').symm

/-! ### Sessions -/

variable {Image : Type} {paint : Raster.Painter Image} {text : String}

theorem holdsJson_printed (options : Options) (report : Json) :
    HoldsJson options.pretty (options.printed report) report := by
  unfold printed
  cases options.pretty with
  | false => exact ⟨_, String.toList_append, Json.spells_write .compact report⟩
  | true => exact ⟨_, String.toList_append, Json.spells_write (.pretty 0) report⟩

/-- The result of a session that does what the options ask for. -/
inductive Answers (paint : Raster.Painter Image) (options : Options) (text : String) :
    Except SessionFault (Delivery Image) → Prop where
  | made {destination : Destination} {product : Artifact Image}
      (made : options.Makes paint text product) (goes : options.GoesTo destination) :
      Answers paint options text (.ok ⟨destination, product⟩)
  | missed {fault : SessionFault} (missed : options.Misses paint text fault) :
      Answers paint options text (.error fault)

theorem page_of_draft {settings : Settings} {draft : Draft}
    (read : settings.draft text = .ok draft) : settings.page text =
      (settings.layoutTimeline draft.diagram.timeline).mapError .layout := by
  rw [Settings.page, read]
  dsimp only
  cases settings.layoutTimeline draft.diagram.timeline with
  | error fault => rfl
  | ok page => rfl

theorem svg_of_page {settings : Settings} {page : Page Float}
    (laidOut : settings.page text = .ok page) :
    settings.svg text = .ok (settings.writePage page) := by
  rw [Settings.svg, laidOut]
  rfl

theorem answers_picture (command : options.command = .render) {document : String}
    (drawn : options.compilation.svg text = .ok document) :
    options.Answers paint text (options.picture paint document) := by
  unfold picture
  cases format : options.format with
  | svg =>
      apply Answers.made (.document command format drawn)
      exact (goesTo_document_iff command format).mpr rfl
  | png =>
      cases painted : paint options.rasterOptions document with
      | error fault => exact .missed (.image command format drawn painted)
      | ok image =>
          apply Answers.made (.image command format drawn painted)
          exact (goesTo_image_iff command format).mpr rfl

theorem answers_timelineSession {draft : Draft} (command : options.command ≠ .parse)
    (read : options.compilation.draft text = .ok draft) (log : List String) :
    options.Answers paint text
      (options.timelineSession paint log draft.diagram.timeline draft.warnings).result := by
  have page : options.compilation.page text =
      (options.settings.layoutTimeline draft.diagram.timeline).mapError .layout :=
    page_of_draft read
  unfold timelineSession
  cases chosen : options.command with
  | parse => exact absurd chosen command
  | process =>
      apply Answers.made (.timeline chosen read (options.holdsJson_printed _) ?_)
      · exact .report (by simp [chosen])
      · exact Timeline.ofReportWith?_reportWith _ _
  | layout =>
      cases laidOut : options.settings.layoutTimeline draft.diagram.timeline with
      | error fault =>
          rw [laidOut] at page
          exact .missed (.page (.inl chosen) page)
      | ok result =>
          rw [laidOut] at page
          apply Answers.made (.page chosen page (options.holdsJson_printed _) ?_)
          · exact .report (by simp [chosen])
          · exact Page.ofReport?_report result
  | render =>
      cases laidOut : options.settings.layoutTimeline draft.diagram.timeline with
      | error fault =>
          rw [laidOut] at page
          exact .missed (.page (.inr chosen) page)
      | ok result =>
          rw [laidOut] at page
          exact answers_picture chosen (svg_of_page page)

theorem answers_draftSession {draft : Draft} (read : options.compilation.draft text = .ok draft)
    (log : List String) :
    options.Answers paint text (options.draftSession paint log draft).result := by
  unfold draftSession
  cases chosen : options.command with
  | parse =>
      apply Answers.made (.draft chosen read (options.holdsJson_printed _) ?_)
      · exact .report (by simp [chosen])
      · exact draft.ofReport?_report
  | process | layout | render =>
      apply answers_timelineSession ?_ read
      simp [chosen]

/-- A session does what the options ask for, or fails as they make it fail. -/
theorem answers_session (paint : Raster.Painter Image) (options : Options) (text : String) :
    options.Answers paint text (options.session paint text).result := by
  have settings : options.settings = options.compilation := rfl
  unfold session
  rw [settings]
  cases read : options.compilation.draft text with
  | ok draft => exact answers_draftSession read _
  | error fault =>
      have page : options.compilation.page text = .error (.source fault) := by
        rw [Settings.page, read]
      cases chosen : options.command with
      | parse => exact .missed (.source (.inl chosen) read)
      | process => exact .missed (.source (.inr chosen) read)
      | layout => exact .missed (.page (.inl chosen) page)
      | render => exact .missed (.page (.inr chosen) page)

theorem not_page_error_of_svg {settings : Settings} {document : String} {fault : CompileFault}
    (drawn : settings.svg text = .ok document) : settings.page text ≠ .error fault := by
  intro failed
  rw [Settings.svg, failed] at drawn
  cases drawn

theorem Misses.unique {first second : SessionFault} (missed : options.Misses paint text first)
    (missed' : options.Misses paint text second) : first = second := by
  cases missed with
  | source command failed =>
      cases missed' with
      | source _ failed' =>
          cases failed.symm.trans failed'
          rfl
      | page other => rcases command with command | command <;> simp [command] at other
      | image other => simp [other] at command
  | page command failed =>
      cases missed' with
      | source other => rcases command with command | command <;> simp [command] at other
      | page _ failed' =>
          cases failed.symm.trans failed'
          rfl
      | image _ _ drawn => exact absurd failed (not_page_error_of_svg drawn)
  | image command _ drawn failed =>
      cases missed' with
      | source other => simp [command] at other
      | page _ failed' => exact absurd failed' (not_page_error_of_svg drawn)
      | image _ _ drawn' failed' =>
          cases drawn.symm.trans drawn'
          cases failed.symm.trans failed'
          rfl

theorem Makes.not_misses {product : Artifact Image} (made : options.Makes paint text product)
    (fault : SessionFault) : ¬ options.Misses paint text fault := by
  intro missed
  cases made with
  | draft command read | timeline command read =>
      cases missed with
      | source _ failed => cases read.symm.trans failed
      | page other => simp [command] at other
      | image other => simp [command] at other
  | page command laidOut =>
      cases missed with
      | source other => simp [command] at other
      | page _ failed => cases laidOut.symm.trans failed
      | image other => simp [command] at other
  | document command format drawn =>
      cases missed with
      | source other => simp [command] at other
      | page _ failed => exact not_page_error_of_svg drawn failed
      | image _ other => cases format.symm.trans other
  | image command _ drawn painted =>
      cases missed with
      | source other => simp [command] at other
      | page _ failed => exact not_page_error_of_svg drawn failed
      | image _ _ drawn' failed =>
          cases drawn.symm.trans drawn'
          cases painted.symm.trans failed

theorem result_of_misses {fault : SessionFault} (missed : options.Misses paint text fault) :
    (options.session paint text).result = .error fault := by
  have answers := answers_session paint options text
  generalize (options.session paint text).result = result at answers ⊢
  cases answers with
  | made made => exact absurd missed (made.not_misses fault)
  | missed other => rw [other.unique missed]

theorem result_of_makes {product : Artifact Image} {destination : Destination}
    (made : options.Makes paint text product) (goes : options.GoesTo destination) :
    ∃ other, (options.session paint text).result = .ok ⟨destination, other⟩ := by
  have answers := answers_session paint options text
  generalize (options.session paint text).result = result at answers ⊢
  cases answers with
  | missed missed => exact absurd missed (made.not_misses _)
  | @made _ other _ goes' => exact ⟨other, by rw [goes.unique goes']⟩

/-- Only a fault of reading or layout is worded on one line. -/
theorem Misses.oneLine {fault : CompileFault}
    (missed : options.Misses paint text (.compile fault)) : OneLine fault.message := by
  cases missed with
  | source _ failed => exact Settings.oneLine_of_draft_error failed
  | page _ failed => exact Settings.oneLine_of_page_error failed

end Options

/-- A text that is the last line of a stream. -/
def IsLastLine (stream line : String) : Prop :=
  OneLine line ∧ ∃ before, stream = before ++ line ++ "\n" ∧
    (before = "" ∨ ∃ earlier, before = earlier ++ "\n")

variable {Image : Type}

def Outcome.ofRun (run : Nat × Trace Image) : Outcome Image :=
  ⟨run.1, run.2.standardOutput, run.2.standardError, run.2.written⟩

/-- What a run leaves behind that says what went wrong. -/
def Outcome.failed (log : List String) (message : String) : Outcome Image :=
  ⟨1, .text "", log ++ ["error: " ++ message], []⟩

theorem isLastLine_failed (log : List String) {message : String} (oneLine : OneLine message) :
    IsLastLine (Outcome.failed log message : Outcome Image).errorText ("error: " ++ message) := by
  refine ⟨.append (by decide +kernel) oneLine, String.join (log.map (· ++ "\n")), ?_, ?_⟩
  · simp [Outcome.failed, Outcome.errorText, String.append_assoc]
  · rcases List.eq_nil_or_concat log with rfl | ⟨earlier, last, rfl⟩
    · exact .inl rfl
    · refine .inr ⟨String.join (earlier.map (· ++ "\n")) ++ last, ?_⟩
      simp [String.append_assoc]

namespace World

/-! ### Runs with options that are read -/

variable {paint : Raster.Painter Image} {world : World} {arguments : List String}
  {options : Options}

theorem run_say (world : World) (log : List String) (trace : Trace Image) :
    (log.forM world.system.say).run trace =
      ((), { trace with standardError := trace.standardError ++ log }) := by
  induction log generalizing trace with
  | nil =>
      rw [List.append_nil]
      rfl
  | cons line rest inductionHypothesis =>
      change (rest.forM world.system.say).run
        { trace with standardError := trace.standardError ++ [line] } = _
      rw [inductionHypothesis, List.append_assoc, List.singleton_append]

theorem runWith_refused (refused : Options.read? arguments = none) :
    world.runWith paint arguments = ⟨2, .text "", [usage], []⟩ := by
  unfold runWith System.run
  rw [refused]
  rfl

theorem runWith_unreadable {fault : FileFault} (read : Options.read? arguments = some options)
    (failed : world.read options.input = .error fault) :
    world.runWith paint arguments = .failed [] (fileMessage fault) := by
  have given : (world.system : System _ Image).read options.input = pure (.error fault) :=
    congrArg pure failed
  unfold runWith System.run
  rw [read]
  dsimp only
  unfold System.runOptions
  rw [given]
  rfl

/-- What a run does behind the lines of its session. -/
def deliverResult (world : World) :
    Except SessionFault (Delivery Image) → StateM (Trace Image) Nat
  | .error fault => world.system.fail fault.message
  | .ok delivery => do
      match ← world.deliver delivery with
      | .error fault => world.system.fail (fileMessage fault)
      | .ok () => return 0

theorem runWith_read {text : String} (read : Options.read? arguments = some options)
    (given : world.read options.input = .ok text) :
    world.runWith paint arguments =
      .ofRun ((world.deliverResult (options.session paint text).result).run
        ⟨.text "", (options.session paint text).log, []⟩) := by
  have asked : (world.system : System _ Image).read options.input = pure (.ok text) :=
    congrArg pure given
  unfold runWith System.run
  rw [read]
  dsimp only
  unfold System.runOptions
  rw [asked, pure_bind]
  dsimp only
  rw [StateT.run_bind, run_say]
  rfl

theorem runWith_missed {text : String} {fault : SessionFault}
    (read : Options.read? arguments = some options) (given : world.read options.input = .ok text)
    (missed : (options.session paint text).result = .error fault) :
    world.runWith paint arguments = .failed (options.session paint text).log fault.message := by
  rw [runWith_read read given, missed]
  rfl

theorem runWith_printed {text : String} {product : Artifact Image}
    (read : Options.read? arguments = some options) (given : world.read options.input = .ok text)
    (made : (options.session paint text).result = .ok ⟨.standardOutput, product⟩) :
    world.runWith paint arguments = ⟨0, product, (options.session paint text).log, []⟩ := by
  rw [runWith_read read given, made]
  rfl

theorem runWith_unwritable {text path : String} {product : Artifact Image} {fault : FileFault}
    (read : Options.read? arguments = some options) (given : world.read options.input = .ok text)
    (made : (options.session paint text).result = .ok ⟨.file path, product⟩)
    (failed : world.files.target path = .error fault) :
    world.runWith paint arguments =
      .failed (options.session paint text).log (fileMessage fault) := by
  rw [runWith_read read given, made]
  simp only [deliverResult, deliver, failed]
  rfl

theorem runWith_written {text path : String} {product : Artifact Image} {place : Place}
    (read : Options.read? arguments = some options) (given : world.read options.input = .ok text)
    (made : (options.session paint text).result = .ok ⟨.file path, product⟩)
    (found : world.files.target path = .ok place) :
    world.runWith paint arguments =
      ⟨0, .text "", (options.session paint text).log, [(place, product)]⟩ := by
  rw [runWith_read read given, made]
  simp only [deliverResult, deliver, found]
  rfl

/-! ### Files that are read and written -/

/-- The text that the input has: the standard input, if there is no path but a dash, or a file. -/
inductive Gives (world : World) : Option String → String → Prop where
  | standardInput {input : Option String} {text : String}
      (unnamed : input = none ∨ input = some "-") (here : world.standardInput = some text) :
      Gives world input text
  | file {path text : String} {place : Place} (named : path ≠ "-")
      (located : world.files.locate path = .ok place)
      (plain : Path.endsInSlash path = false) (here : world.files.get? place = some text) :
      Gives world (some path) text

/-- A file can be written where a path leads, if no directory is there. -/
structure Admits (world : World) (path : String) (place : Place) : Prop where
  located : world.files.locate path = .ok place
  outside : world.files.isDirectory place = false
  plain : Path.endsInSlash path = false

theorem read_eq_ok_iff {input : Option String} {text : String} :
    world.read input = .ok text ↔ world.Gives input text := by
  constructor
  · intro read
    rcases Options.named_or_unnamed input with ⟨path, rfl, named⟩ | unnamed
    · unfold World.read at read
      simp only [named, if_false] at read
      obtain ⟨place, located, here, plain⟩ := Files.read_eq_ok_iff.mp read
      exact .file named located plain here
    · refine .standardInput unnamed ?_
      cases here : world.standardInput with
      | none => rcases unnamed with rfl | rfl <;> simp [World.read, here] at read
      | some given => rcases unnamed with rfl | rfl <;> simpa [World.read, here] using read
  · rintro (⟨unnamed, here⟩ | ⟨named, located, plain, here⟩)
    · rcases unnamed with rfl | rfl <;> simp [World.read, here]
    · unfold World.read
      simp only [named, if_false]
      exact Files.read_eq_ok_iff.mpr ⟨_, located, here, plain⟩

theorem target_eq_ok_iff {path : String} {place : Place} :
    world.files.target path = .ok place ↔ world.Admits path place := by
  rw [Files.target_eq_ok_iff]
  constructor
  · rintro ⟨located, outside, plain⟩
    exact ⟨located, outside, plain⟩
  · rintro ⟨located, outside, plain⟩
    exact ⟨located, outside, plain⟩

/-! ### Everything or nothing -/

/-- Why options that are read come to nothing. -/
inductive Fails (world : World) (paint : Raster.Painter Image) (options : Options) :
    String → Prop where
  | unreadable (fault : FileFault) (missing : ∀ text, ¬ world.Gives options.input text)
      (failed : world.read options.input = .error fault) :
      Fails world paint options (fileMessage fault)
  | missed (text : String) (fault : SessionFault) (given : world.Gives options.input text)
      (missed : options.Misses paint text fault) : Fails world paint options fault.message
  | unwritable (text path : String) (product : Artifact Image) (fault : FileFault)
      (given : world.Gives options.input text) (made : options.Makes paint text product)
      (goes : options.GoesTo (.file path)) (closed : ∀ place, ¬ world.Admits path place)
      (failed : world.files.target path = .error fault) :
      Fails world paint options (fileMessage fault)

/-- How a product is delivered: on the standard output and nowhere else, or in one file. -/
inductive Delivers (world : World) (paint : Raster.Painter Image) (options : Options) :
    Artifact Image → List (Place × Artifact Image) → Prop where
  | printed (text : String) (product : Artifact Image) (given : world.Gives options.input text)
      (made : options.Makes paint text product) (goes : options.GoesTo .standardOutput) :
      Delivers world paint options product []
  | written (text path : String) (product : Artifact Image) (place : Place)
      (given : world.Gives options.input text) (made : options.Makes paint text product)
      (goes : options.GoesTo (.file path)) (admits : world.Admits path place) :
      Delivers world paint options (.text "") [(place, product)]

theorem runWith_of_misses {text : String} {fault : SessionFault}
    (read : Options.read? arguments = some options) (given : world.Gives options.input text)
    (missed : options.Misses paint text fault) :
    world.runWith paint arguments = .failed (options.session paint text).log fault.message :=
  runWith_missed read (read_eq_ok_iff.mpr given) (Options.result_of_misses missed)

theorem runWith_of_fails (read : Options.read? arguments = some options) {message : String}
    (fails : world.Fails paint options message) :
    ∃ log, world.runWith paint arguments = .failed log message := by
  cases fails with
  | unreadable fault missing failed => exact ⟨[], runWith_unreadable read failed⟩
  | missed text fault given missed => exact ⟨_, runWith_of_misses read given missed⟩
  | unwritable text path product fault given made goes closed failed =>
      obtain ⟨other, result⟩ := Options.result_of_makes made goes
      exact ⟨_, runWith_unwritable read (read_eq_ok_iff.mpr given) result failed⟩

/-- Options that are read fail or are delivered. -/
theorem runWith_cases (world : World) (paint : Raster.Painter Image)
    (read : Options.read? arguments = some options) :
    (∃ message, world.Fails paint options message) ∨
      ∃ product log written, world.Delivers paint options product written ∧
        world.runWith paint arguments = ⟨0, product, log, written⟩ := by
  cases opened : world.read options.input with
  | error fault =>
      refine .inl ⟨_, .unreadable fault (fun text given => ?_) opened⟩
      cases opened.symm.trans (read_eq_ok_iff.mpr given)
  | ok text =>
      have given := read_eq_ok_iff.mp opened
      have answers := Options.answers_session paint options text
      generalize result : (options.session paint text).result = outcome at answers
      cases answers with
      | missed missed => exact .inl ⟨_, .missed text _ given missed⟩
      | @made destination product made goes =>
          cases destination with
          | standardOutput =>
              have run := runWith_printed read opened result
              exact .inr ⟨product, _, [], .printed text product given made goes, run⟩
          | file path =>
              cases found : world.files.target path with
              | error fault =>
                  refine .inl ⟨_, .unwritable text path product fault given made goes
                    (fun place admits => ?_) found⟩
                  cases found.symm.trans (target_eq_ok_iff.mpr admits)
              | ok place =>
                  have admits := target_eq_ok_iff.mp found
                  have run := runWith_written read opened result found
                  exact .inr ⟨_, _, _, .written text path product place given made goes admits, run⟩

/-- An outcome that is everything that the arguments ask for or nothing. -/
structure AllOrNothing (world : World) (paint : Raster.Painter Image) (arguments : List String)
    (outcome : Outcome Image) : Prop where
  refused : outcome.code = 2 ↔ Options.read? arguments = none
  /-- To ask for help is refused as well. -/
  helped : ∀ before help after, arguments = before ++ help :: after →
    help = "--help" ∨ help = "-h" → (Options.read? before).isSome → "--" ∉ before →
    outcome.code = 2
  failed : outcome.code = 1 ↔ ∃ options message,
    Options.read? arguments = some options ∧ world.Fails paint options message
  otherwise : outcome.code ≠ 2 → outcome.code ≠ 1 → outcome.code = 0
  nothing : outcome.code ≠ 0 → outcome.standardOutput = .text "" ∧ outcome.written = []
  everything : outcome.code = 0 → ∃ options, Options.read? arguments = some options ∧
    world.Delivers paint options outcome.standardOutput outcome.written
  /-- The root element gets no id but one that is asked for. -/
  identified : ∀ options, Options.read? arguments = some options →
    ∀ id ∈ options.rootId, Options.Identifies arguments id
  /-- What is wrong with a text or its layout is the last thing that is said. -/
  explained : ∀ options text fault, Options.read? arguments = some options →
    world.Gives options.input text → options.Misses paint text (.compile fault) →
    IsLastLine outcome.errorText ("error: " ++ fault.message)

namespace AllOrNothing

theorem of_refused (read : Options.read? arguments = none) :
    world.AllOrNothing paint arguments (world.runWith paint arguments) := by
  rw [runWith_refused read]
  exact
    { refused := by simp [read]
      helped := fun _ _ _ _ _ _ _ => rfl
      failed := by simp [read]
      otherwise := fun other => absurd rfl other
      nothing := fun _ => ⟨rfl, rfl⟩
      everything := fun delivered => absurd delivered two_ne_zero
      identified := by simp [read]
      explained := by simp [read] }

theorem not_helped (read : Options.read? arguments = some options) {before after : List String}
    {help : String} (split : arguments = before ++ help :: after)
    (asked : help = "--help" ∨ help = "-h") (readBefore : (Options.read? before).isSome)
    (undashed : "--" ∉ before) : False := by
  have refused := Options.read?_help split asked readBefore undashed
  simp [read] at refused

theorem explained_run (world : World) (paint : Raster.Painter Image) (arguments : List String)
    (options : Options) (text : String) (fault : CompileFault)
    (read : Options.read? arguments = some options) (given : world.Gives options.input text)
    (missed : options.Misses paint text (.compile fault)) :
    IsLastLine (world.runWith paint arguments).errorText ("error: " ++ fault.message) := by
  rw [runWith_of_misses read given missed]
  exact isLastLine_failed _ missed.oneLine

theorem of_fails (read : Options.read? arguments = some options) {message : String}
    (fails : world.Fails paint options message) :
    world.AllOrNothing paint arguments (world.runWith paint arguments) := by
  have explained := explained_run world paint arguments
  obtain ⟨log, outcome⟩ := runWith_of_fails read fails
  rw [outcome] at explained ⊢
  exact
    { refused := by simp [read, Outcome.failed]
      helped := fun _ _ _ split asked readBefore undashed =>
        False.elim (not_helped read split asked readBefore undashed)
      failed := iff_of_true rfl ⟨options, message, read, fails⟩
      otherwise := fun _ other => absurd rfl other
      nothing := fun _ => ⟨rfl, rfl⟩
      everything := fun delivered => absurd delivered Nat.one_ne_zero
      identified := fun _ => Options.identifies_read?
      explained := explained }

theorem of_delivers (read : Options.read? arguments = some options) {product : Artifact Image}
    {log : List String} {written : List (Place × Artifact Image)}
    (delivers : world.Delivers paint options product written)
    (outcome : world.runWith paint arguments = ⟨0, product, log, written⟩) :
    world.AllOrNothing paint arguments (world.runWith paint arguments) := by
  have succeeds : ∀ message, ¬ world.Fails paint options message := by
    intro message fails
    obtain ⟨_, failed⟩ := runWith_of_fails read fails
    simp [outcome, Outcome.failed] at failed
  have explained := explained_run world paint arguments
  rw [outcome] at explained ⊢
  exact
    { refused := by simp [read]
      helped := fun _ _ _ split asked readBefore undashed =>
        False.elim (not_helped read split asked readBefore undashed)
      failed := by simp [read, succeeds]
      otherwise := fun _ _ => rfl
      nothing := fun other => absurd rfl other
      everything := fun _ => ⟨options, read, delivers⟩
      identified := fun _ => Options.identifies_read?
      explained := explained }

end AllOrNothing

/-- A run delivers everything or nothing, whatever painter it is given. It ends with code two for
arguments that are refused, with code one if reading, compiling, painting or writing fails, and with
code zero otherwise. Unless the code is zero, nothing is printed and nothing written; if it is, one
product goes whole to the one place that the options mean. -/
theorem allOrNothing_run (world : World) (paint : Raster.Painter Image) (arguments : List String) :
    world.AllOrNothing paint arguments (world.runWith paint arguments) := by
  cases read : Options.read? arguments with
  | none => exact .of_refused read
  | some options =>
      rcases world.runWith_cases paint read with
        ⟨message, fails⟩ | ⟨product, log, written, delivers, outcome⟩
      · exact .of_fails read fails
      · exact .of_delivers read delivers outcome

namespace AllOrNothing

variable {outcome : Outcome Image} (whole : world.AllOrNothing paint arguments outcome)
  (read : Options.read? arguments = some options) (succeeds : outcome.code = 0)

include whole read succeeds

theorem of_printed (goes : options.GoesTo .standardOutput) :
    outcome.written = [] ∧ ∃ text, world.Gives options.input text ∧
      options.Makes paint text outcome.standardOutput := by
  obtain ⟨other, read', delivers⟩ := whole.everything succeeds
  obtain rfl := Option.some.inj (read.symm.trans read')
  generalize outcome.written = written, outcome.standardOutput = printed at delivers ⊢
  cases delivers with
  | printed text _ given made => exact ⟨rfl, text, given, made⟩
  | written _ _ _ _ _ _ goes' => cases goes.unique goes'

theorem of_written {path : String} (goes : options.GoesTo (.file path)) :
    outcome.standardOutput = .text "" ∧ ∃ text product place, world.Gives options.input text ∧
      options.Makes paint text product ∧ world.Admits path place ∧
      outcome.written = [(place, product)] := by
  obtain ⟨other, read', delivers⟩ := whole.everything succeeds
  obtain rfl := Option.some.inj (read.symm.trans read')
  generalize outcome.written = written, outcome.standardOutput = printed at delivers ⊢
  cases delivers with
  | printed _ _ _ _ goes' => cases goes.unique goes'
  | written text _ product place given made goes' admits =>
      cases goes.unique goes'
      exact ⟨rfl, text, product, place, given, made, admits, rfl⟩

end AllOrNothing

/-- A painter whose images cannot be encoded. -/
def unencodable : Raster.Painter Unit :=
  fun _ _ => .error .notEncoded

/-- A text with a line that is no statement. -/
def dream : String :=
  "title \"Nap\"\nto dream\n"

/-- A world with this text in a file and nothing on the standard input. -/
def dreaming : World :=
  ⟨Files.ofPaths [("dream.tick", dream)], none⟩

theorem eq_dream_of_gives {text : String} (given : dreaming.Gives (some "dream.tick") text) :
    text = dream := by
  have read : dreaming.read (some "dream.tick") = .ok dream := by decide +kernel
  exact Except.ok.inj ((read_eq_ok_iff.mpr given).symm.trans read)

theorem warnings_dream {draft : Draft} (drafted : Settings.standard.draft dream = .ok draft) :
    draft.warnings = [⟨2, "to dream"⟩] := by
  have warned : (Settings.standard.draft dream).toOption.map Draft.warnings =
      some [⟨2, "to dream"⟩] := by decide +kernel
  rw [drafted] at warned
  exact Option.some.inj warned

/-- A report and a document are delivered. What cannot be written, painted or read is not, and help
is refused. -/
theorem dreaming_runs :
    ((dreaming.runWith unencodable ["parse", "--out", "x.json", "dream.tick"]).code = 0 ∧
      (dreaming.runWith unencodable ["parse", "--out", "x.json", "dream.tick"]).written = [] ∧
      ∃ content value draft,
        (dreaming.runWith unencodable ["parse", "--out", "x.json", "dream.tick"]).standardOutput =
          .text content ∧
        HoldsJson false content value ∧ Draft.ofReport? value = some draft ∧
        draft.warnings = [⟨2, "to dream"⟩]) ∧
    ((dreaming.runWith unencodable ["--out", "../x.svg", "dream.tick"]).code = 0 ∧
      (dreaming.runWith unencodable ["--out", "../x.svg", "dream.tick"]).standardOutput =
        .text "" ∧
      ∃ document, Settings.standard.svg dream = .ok document ∧
        (dreaming.runWith unencodable ["--out", "../x.svg", "dream.tick"]).written =
          [(["x.svg".toList], .text document)]) ∧
    (∀ arguments ∈ [["--out", "no/x.svg", "dream.tick"], ["--format", "png", "dream.tick"],
      ["parse"]], (dreaming.runWith unencodable arguments).code = 1 ∧
      (dreaming.runWith unencodable arguments).standardOutput = .text "" ∧
      (dreaming.runWith unencodable arguments).written = []) ∧
    (dreaming.runWith unencodable ["parse", "--help"]).code = 2 := by
  refine ⟨?_, ?_, ?_, ?_⟩
  · have read : Options.read? ["parse", "--out", "x.json", "dream.tick"] =
        some { Options.standard with
          command := .parse, out := some "x.json", input := some "dream.tick" } := by
      decide +kernel
    have succeeds : (dreaming.runWith unencodable
        ["parse", "--out", "x.json", "dream.tick"]).code = 0 := by decide +kernel
    obtain ⟨unwritten, text, given, made⟩ := (dreaming.allOrNothing_run unencodable
      ["parse", "--out", "x.json", "dream.tick"]).of_printed read succeeds
      (.report Command.noConfusion)
    obtain rfl := eq_dream_of_gives given
    refine ⟨succeeds, unwritten, ?_⟩
    generalize (dreaming.runWith unencodable
      ["parse", "--out", "x.json", "dream.tick"]).standardOutput = printed at made ⊢
    cases made with
    | timeline command | page command | document command | image command => cases command
    | draft _ drafted json means => exact ⟨_, _, _, rfl, json, means, warnings_dream drafted⟩
  · have read : Options.read? ["--out", "../x.svg", "dream.tick"] =
        some { Options.standard with out := some "../x.svg", input := some "dream.tick" } := by
      decide +kernel
    have succeeds :
        (dreaming.runWith unencodable ["--out", "../x.svg", "dream.tick"]).code = 0 := by
      decide +kernel
    obtain ⟨unprinted, text, product, place, given, made, admits, written⟩ :=
      (dreaming.allOrNothing_run unencodable ["--out", "../x.svg", "dream.tick"]).of_written read
        succeeds (.documentFile "../x.svg" rfl rfl rfl (by decide))
    obtain rfl := eq_dream_of_gives given
    have above : dreaming.files.target "../x.svg" = .ok ["x.svg".toList] := by decide +kernel
    obtain rfl := Except.ok.inj (above.symm.trans (target_eq_ok_iff.mpr admits))
    refine ⟨succeeds, unprinted, ?_⟩
    cases made with
    | draft command | timeline command | page command => cases command
    | image _ format => cases format
    | document _ _ drawn => exact ⟨_, drawn, written⟩
  · intro arguments inside
    have fails : (dreaming.runWith unencodable arguments).code = 1 := by
      simp only [List.mem_cons, List.not_mem_nil, or_false] at inside
      rcases inside with rfl | rfl | rfl <;> decide +kernel
    exact ⟨fails, (dreaming.allOrNothing_run unencodable arguments).nothing (by simp [fails])⟩
  · exact (dreaming.allOrNothing_run unencodable ["parse", "--help"]).helped ["parse"] "--help" []
      rfl (.inl rfl) (by decide +kernel) (by decide)

end World

end Chronogram.CommandLine
