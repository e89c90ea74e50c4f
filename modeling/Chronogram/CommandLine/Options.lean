import Chronogram.Number.Reading
import Chronogram.Raster.Canvas
import Chronogram.Svg.Identifier
import Chronogram.Text.Ascii
import Chronogram.Text.Blank

/-!
The arguments of the command line.

An argument is a command, a switch, an option that takes the next argument as its value, or the path
of the input. Later commands and options replace earlier ones; a second path is refused. Behind two
dashes there may be one more argument, which is a path whatever it looks like.
-/

namespace Chronogram.CommandLine

open Text

inductive Command where
  | render
  | parse
  | process
  | layout
  deriving Repr, DecidableEq

inductive PictureFormat where
  | svg
  | png
  deriving Repr, DecidableEq

/-- The arguments, read. -/
structure Options where
  command : Command
  input : Option String
  pretty : Bool
  strict : Bool
  debug : Bool
  format : PictureFormat
  scale : Number.Value
  background : Option String
  rootId : Option String
  out : Option String
  deriving Repr, DecidableEq

def Options.standard : Options where
  command := .render
  input := none
  pretty := false
  strict := false
  debug := false
  format := .svg
  scale := Raster.unitScale
  background := none
  rootId := none
  out := none

/-- Settings that need no value. -/
inductive Switch where
  | pretty
  | strict
  | debug
  deriving Repr, DecidableEq

inductive Setting where
  | format
  | scale
  | background
  | rootId
  | out
  deriving Repr, DecidableEq

/-- What an argument is, by its looks. -/
inductive Word where
  | help
  | command (command : Command)
  | switch (switch : Switch)
  | setting (setting : Setting)
  | separator
  | path
  | unknown
  deriving Repr, DecidableEq

def reservedWords : List (String × Word) :=
  [("--help", .help), ("-h", .help), ("render", .command .render), ("parse", .command .parse),
    ("process", .command .process), ("layout", .command .layout), ("--pretty", .switch .pretty),
    ("--strict", .switch .strict), ("--debug", .switch .debug), ("--format", .setting .format),
    ("--scale", .setting .scale), ("--background", .setting .background),
    ("--id", .setting .rootId), ("--out", .setting .out), ("--", .separator), ("-", .path)]

def Word.ofArgument (argument : String) : Word :=
  match reservedWords.lookup argument with
  | some word => word
  | none => if argument.toList.head? = some '-' then .unknown else .path

def PictureFormat.ofName? (text : List Char) : Option PictureFormat :=
  let name := asciiLower (trim text)
  if name = "svg".toList then some .svg
  else if name = "png".toList then some .png
  else none

/-- Read a finite scale above zero, in single precision. -/
def scale? (text : String) : Option Number.Value :=
  (Number.read? Number.Format.single text.toList).filter Number.Value.isPositive

namespace Options

def switchOn (options : Options) : Switch → Options
  | .pretty => { options with pretty := true }
  | .strict => { options with strict := true }
  | .debug => { options with debug := true }

/-- Use a value; a blank background is no background. -/
def set? (options : Options) (setting : Setting) (value : String) : Option Options :=
  match setting with
  | .format =>
      (PictureFormat.ofName? value.toList).map fun format => { options with format }
  | .scale => (scale? value).map fun scale => { options with scale }
  | .background =>
      let color := trim value.toList
      if color.isEmpty then some options
      else some { options with background := some (String.ofList color) }
  | .rootId => some { options with rootId := some (Svg.Identifier.ofText value) }
  | .out => some { options with out := some value }

def addInput? (options : Options) (path : String) : Option Options :=
  match options.input with
  | none => some { options with input := some path }
  | some _ => none

def readPath? (options : Options) : List String → Option Options
  | [] => some options
  | [path] => options.addInput? path
  | _ => none

def readFrom? (options : Options) : List String → Option Options
  | [] => some options
  | argument :: rest =>
      match Word.ofArgument argument with
      | .help | .unknown => none
      | .command command => readFrom? { options with command } rest
      | .switch switch => readFrom? (options.switchOn switch) rest
      | .setting setting =>
          match rest with
          | [] => none
          | value :: rest =>
              match options.set? setting value with
              | some next => readFrom? next rest
              | none => none
      | .separator => options.readPath? rest
      | .path =>
          match options.addInput? argument with
          | some next => readFrom? next rest
          | none => none

def read? (arguments : List String) : Option Options :=
  standard.readFrom? arguments

end Options

/-- The lines of the usage text. -/
def usageLines : List String :=
  ["tickline",
    "",
    "USAGE:",
    "tickline [render] [--format svg|png] [--scale <n>] [--background <color>] [--id " ++
      "<diagram-id>] [--out <path>] [--strict] [--debug] [<path>|-]",
    "tickline parse [--pretty] [--strict] [--debug] [<path>|-]",
    "tickline process [--pretty] [--strict] [--debug] [<path>|-]",
    "tickline layout [--pretty] [--strict] [--debug] [<path>|-]",
    "",
    "NOTES:",
    "- If <path> is omitted or '-', input is read from stdin.",
    "- parse prints the parsed diagram as JSON; process adds the interpolated ticks; " ++
      "layout prints geometry.",
    "- render prints SVG to stdout by default; use --out to write a file.",
    "- PNG output defaults to writing next to the input file (or ./out.png for stdin).",
    "- --strict turns unrecognized lines into errors instead of warnings.",
    "- --debug enables debug logging and dumps the parsed and processed models to stderr."]

def usage : String :=
  String.join (usageLines.map (· ++ "\n"))

end Chronogram.CommandLine
