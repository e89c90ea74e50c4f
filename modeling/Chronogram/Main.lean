import Chronogram.CommandLine.Session
import Chronogram.Raster.Png

/-!
The command line on the system that it is started on.
-/

namespace Chronogram.CommandLine

def FileFault.ofError (failure : IO.Error) : FileFault :=
  match failure with
  | .noFileOrDirectory _ _ _ => .notFound
  | .inappropriateType _ code _ => if code = 21 then .isDirectory else .notDirectory
  | _ => .other (toString failure)

def attempt {α : Type} (action : IO α) : IO (Except FileFault α) := do
  try return .ok (← action)
  catch failure => return .error (.ofError failure)

def Product.bytes : Product → ByteArray
  | .text content => content.toUTF8
  | .image canvas => ⟨(Raster.Png.ofCanvas canvas).toArray⟩

def readBytes (input : Option String) : IO ByteArray :=
  match input.filter (· ≠ "-") with
  | some path => IO.FS.readBinFile path
  | none => do (← IO.getStdin).readBinToEnd

def writeBytes (destination : Destination) (bytes : ByteArray) : IO Unit :=
  match destination with
  | .standardOutput => do (← IO.getStdout).write bytes
  | .file path => IO.FS.writeBinFile path bytes

def hostSystem : System IO Raster.Canvas where
  read input := do
    match ← attempt (readBytes input) with
    | .error fault => return .error fault
    | .ok bytes =>
        match String.fromUTF8? bytes with
        | some text => return .ok text
        | none => return .error .notText
  deliver delivery := attempt (writeBytes delivery.destination (Product.bytes delivery.product))
  say := IO.eprintln

end Chronogram.CommandLine

open Chronogram.CommandLine in
def main (arguments : List String) : IO UInt32 := do
  return (← hostSystem.run Chronogram.Raster.emptyPainter arguments).toUInt32
