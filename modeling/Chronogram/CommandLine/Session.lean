import Chronogram.CommandLine.Files
import Chronogram.CommandLine.Options
import Chronogram.Compiler
import Chronogram.Journal
import Chronogram.Report

/-!
What a run of the command line does.

A session turns options and the text of the input into lines for the standard error stream and
either a fault or one delivery: the whole result and where it goes. Nothing is delivered beside a
fault. Images are made by a painter that is given.

A run asks its system for the input, says the lines of the session, and asks the system to deliver.
It is the same over every system. A world is a system whose files are data, so that what a run
leaves behind can be looked at.
-/

namespace Chronogram.CommandLine

/-- What is delivered. -/
inductive Artifact (Image : Type) where
  | text (content : String)
  | image (image : Image)
  deriving Repr, DecidableEq

/-- What is delivered where images are empty canvases. -/
abbrev Product := Artifact Raster.Canvas

inductive Destination where
  | standardOutput
  | file (path : String)
  deriving Repr, DecidableEq

structure Delivery (Image : Type) where
  destination : Destination
  product : Artifact Image
  deriving Repr, DecidableEq

/-- Why there is nothing to deliver. -/
inductive SessionFault where
  | compile (fault : CompileFault)
  | image (fault : Raster.ImageFault)
  deriving Repr, DecidableEq

def SessionFault.message : SessionFault → String
  | .compile fault => fault.message
  | .image fault => fault.message

/-- The outcome of a session before anything is delivered. -/
structure Session (Image : Type) where
  log : List String
  result : Except SessionFault (Delivery Image)

namespace Options

def mode (options : Options) : Mode :=
  if options.strict then .strict else .lenient

/-- The settings of a compilation. -/
def settings (options : Options) : Settings :=
  { Settings.standard with mode := options.mode, rootId := options.rootId }

/-- The lines of some journal entries: warnings always, debug entries on demand. -/
def logLines (options : Options) (entries : List Entry) : List String :=
  (entries.filter fun entry => options.debug || entry.level == .warn).map Entry.line

def dump (options : Options) (label : String) (report : Json) : List String :=
  if options.debug then ["--- " ++ label ++ " ---", report.pretty] else []

def printed (options : Options) (report : Json) : String :=
  (if options.pretty then report.pretty else report.compact) ++ "\n"

def destinationOf (path : String) : Destination :=
  if path = "-" then .standardOutput else .file path

def documentDestination (options : Options) : Destination :=
  (options.out.map destinationOf).getD .standardOutput

def imagePath (input : Option String) : String :=
  match input with
  | some path => if path = "-" then "out.png" else Path.withExtension path "png"
  | none => "out.png"

def imageDestination (options : Options) : Destination :=
  destinationOf (options.out.getD (imagePath options.input))

def rasterOptions (options : Options) : Raster.RasterOptions :=
  ⟨options.scale, options.background⟩

variable {Image : Type} (paint : Raster.Painter Image) (options : Options)

def picture (document : String) : Except SessionFault (Delivery Image) :=
  match options.format with
  | .svg => .ok ⟨options.documentDestination, .text document⟩
  | .png =>
      match paint options.rasterOptions document with
      | .ok image => .ok ⟨options.imageDestination, .image image⟩
      | .error fault => .error (.image fault)

def reportDelivery (report : Json) : Delivery Image :=
  ⟨.standardOutput, .text (options.printed report)⟩

def renderSession (log : List String) (page : Page Float) : Session Image :=
  let document := options.settings.writePage page
  let entry := Entry.ofDocument (Drawing.ofPage page).length document.utf8ByteSize
  ⟨log ++ options.logLines [entry], options.picture paint document⟩

/-- The part of a session behind filling forward. -/
def timelineSession (log : List String) (timeline : Timeline) (warnings : List Warning) :
    Session Image :=
  match options.command with
  | .process => ⟨log, .ok (options.reportDelivery (timeline.reportWith warnings))⟩
  | _ =>
      match options.settings.layoutTimeline timeline with
      | .error fault => ⟨log, .error (.compile (.layout fault))⟩
      | .ok page =>
          let log := log ++ options.logLines [Entry.ofPage page]
          if options.command = .layout then ⟨log, .ok (options.reportDelivery page.report)⟩
          else options.renderSession paint log page

def draftSession (log : List String) (draft : Draft) : Session Image :=
  let log := log ++ options.logLines [Entry.ofDraft draft] ++ options.dump "parsed" draft.report
  match options.command with
  | .parse => ⟨log, .ok (options.reportDelivery draft.report)⟩
  | _ =>
      let timeline := draft.diagram.timeline
      let log := log ++ options.logLines [Entry.ofTimeline timeline] ++
        options.dump "processed" timeline.report
      options.timelineSession paint log timeline draft.warnings

def session (text : String) : Session Image :=
  let notices := Draft.notices options.mode (Draft.blank options.settings.site)
    (Source.Script.ofText text).lines
  let log := options.logLines (Entry.ofText text ++ notices.map Entry.ofNotice)
  match options.settings.draft text with
  | .error fault => ⟨log, .error (.compile (.source fault))⟩
  | .ok draft => options.draftSession paint log draft

end Options

/-! ### Runs -/

/-- What a run asks of its system. -/
structure System (m : Type → Type) (Image : Type) where
  read : Option String → m (Except FileFault String)
  deliver : Delivery Image → m (Except FileFault Unit)
  /-- Say a line on the standard error stream. -/
  say : String → m Unit

/-- The wording of a failure to read or write. -/
def fileMessage (fault : FileFault) : String :=
  "I/O error: " ++ fault.message

namespace System

variable {m : Type → Type} [Monad m] {Image : Type} (system : System m Image)

/-- Report a failure and give the exit code for it. -/
def fail (message : String) : m Nat := do
  system.say ("error: " ++ message)
  return 1

/-- Run with options that have been read; the answer is the exit code. -/
def runOptions (paint : Raster.Painter Image) (options : Options) : m Nat := do
  match ← system.read options.input with
  | .error fault => system.fail (fileMessage fault)
  | .ok text =>
      let session := options.session paint text
      session.log.forM system.say
      match session.result with
      | .error fault => system.fail fault.message
      | .ok delivery =>
          match ← system.deliver delivery with
          | .error fault => system.fail (fileMessage fault)
          | .ok () => return 0

def run (paint : Raster.Painter Image) (arguments : List String) : m Nat := do
  match Options.read? arguments with
  | some options => system.runOptions paint options
  | none =>
      system.say usage
      return 2

end System

/-! ### Worlds -/

/-- What a run is given beside its arguments. Standard input that is not text is missing. -/
structure World where
  files : Files
  standardInput : Option String

/-- What a run leaves behind. -/
structure Outcome (Image : Type) where
  code : Nat
  standardOutput : Artifact Image
  standardError : List String
  written : List (Place × Artifact Image)

/-- The standard error stream as text: every line, ended. -/
def Outcome.errorText {Image : Type} (outcome : Outcome Image) : String :=
  String.join (outcome.standardError.map (· ++ "\n"))

/-- What a run has left behind so far. -/
structure Trace (Image : Type) where
  standardOutput : Artifact Image
  standardError : List String
  written : List (Place × Artifact Image)

def Trace.blank {Image : Type} : Trace Image :=
  ⟨.text "", [], []⟩

namespace World

variable {Image : Type}

def read (world : World) (input : Option String) : Except FileFault String :=
  let fromStandardInput := match world.standardInput with
    | some text => .ok text
    | none => .error .notText
  match input with
  | none => fromStandardInput
  | some path => if path = "-" then fromStandardInput else world.files.read path

/-- Deliver a result whole, or nothing. -/
def deliver (world : World) (delivery : Delivery Image) :
    StateM (Trace Image) (Except FileFault Unit) := do
  match delivery.destination with
  | .standardOutput =>
      modify ({ · with standardOutput := delivery.product })
      return .ok ()
  | .file path =>
      match world.files.target path with
      | .error fault => return .error fault
      | .ok place =>
          modify fun trace => { trace with written := trace.written ++ [(place, delivery.product)] }
          return .ok ()

def system (world : World) : System (StateM (Trace Image)) Image where
  read input := return world.read input
  deliver := world.deliver
  say line := modify fun trace => { trace with standardError := trace.standardError ++ [line] }

def runWith (world : World) (paint : Raster.Painter Image) (arguments : List String) :
    Outcome Image :=
  let (code, trace) := (world.system.run paint arguments).run Trace.blank
  ⟨code, trace.standardOutput, trace.standardError, trace.written⟩

def run (world : World) (arguments : List String) : Outcome Raster.Canvas :=
  world.runWith Raster.emptyPainter arguments

/-- What a run changes in the working directory: the files that it writes with other content than
they had, under their names from there. -/
def changes [DecidableEq Image] (world : World) (outcome : Outcome Image) :
    List (Place × Artifact Image) :=
  let here := world.files.workingDirectory
  (outcome.written.filter fun (place, product) =>
    here.isPrefixOf place && (world.files.get? place).map Artifact.text ≠ some product).map
      fun (place, product) => (place.drop here.length, product)

end World

end Chronogram.CommandLine
