import Chronogram.Diagram.Draft
import Chronogram.Raster.Canvas
import Chronogram.Svg.Document
import Chronogram.Svg.Identifier

/-!
From text to pictures.

The stages are reading, filling forward, layout and writing; a fault of a stage is the fault of the
whole. Nothing is handed out beside a fault.
-/

namespace Chronogram

/-- Why there is no picture of a text. -/
inductive CompileFault where
  | source (fault : LineFault)
  | layout (fault : LayoutFault)
  | raster (fault : Raster.RasterFault)
  deriving Repr, DecidableEq

def CompileFault.message : CompileFault → String
  | .source fault => fault.message
  | .layout fault => fault.message
  | .raster fault => fault.message

/-- What a compilation depends on beside the text. -/
structure Settings where
  site : Config
  mode : Mode
  metrics : FontMetrics
  rootId : Option String

def Settings.standard : Settings :=
  ⟨Config.standard, .lenient, FontMetrics.standard, none⟩

instance : Inhabited Settings := ⟨Settings.standard⟩

namespace Settings

def draft (settings : Settings) (text : String) : Except LineFault Draft :=
  Draft.steps settings.mode (Draft.blank settings.site) (Source.Script.ofText text).lines

def layoutTimeline (settings : Settings) (timeline : Timeline) :
    Except LayoutFault (Page Float) :=
  Page.layout settings.metrics.measurer timeline

def writePage (settings : Settings) (page : Page Float) : String :=
  Svg.render settings.rootId page

def page (settings : Settings) (text : String) : Except CompileFault (Page Float) :=
  match settings.draft text with
  | .error fault => .error (.source fault)
  | .ok draft =>
      match settings.layoutTimeline draft.diagram.timeline with
      | .error fault => .error (.layout fault)
      | .ok page => .ok page

def svg (settings : Settings) (text : String) : Except CompileFault String :=
  (settings.page text).map settings.writePage

def image (settings : Settings) (options : Raster.RasterOptions) (text : String) :
    Except CompileFault Raster.Canvas :=
  match settings.svg text with
  | .error fault => .error fault
  | .ok document =>
      match Raster.canvas options document with
      | .error fault => .error (.raster fault)
      | .ok canvas => .ok canvas

end Settings

end Chronogram
