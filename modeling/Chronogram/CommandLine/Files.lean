/-!
Paths and files.

A path is a row of steps between slashes, taken one after the other: from the root if the path
starts with a slash, and from the working directory otherwise. Files are kept in a list under their
places. A directory is there if it is listed or if something stands below it.
-/

namespace Chronogram.CommandLine

/-- Why a file or the standard input cannot be used. -/
inductive FileFault where
  | notFound
  | notDirectory
  | isDirectory
  | notText
  | other (message : String)
  deriving Repr, DecidableEq

def FileFault.message : FileFault → String
  | .notFound => "No such file or directory (os error 2)"
  | .notDirectory => "Not a directory (os error 20)"
  | .isDirectory => "Is a directory (os error 21)"
  | .notText => "stream did not contain valid UTF-8"
  | .other message => message

namespace Path

/-- Cut a path at its slashes, with the reversed characters of the current name in the
accumulator. -/
def namesFrom (seen : List Char) : List Char → List (List Char)
  | [] => [seen.reverse]
  | c :: rest => if c = '/' then seen.reverse :: namesFrom [] rest else namesFrom (c :: seen) rest

/-- The steps of a path: its names, single and double dots among them. -/
def steps (path : String) : List (List Char) :=
  (namesFrom [] path.toList).filter (· ≠ [])

/-- Whether a path starts with a slash, so that it does not depend on a directory. -/
def isAbsolute (path : String) : Bool :=
  path.toList.head? = some '/'

/-- Whether a path ends with a slash, so that it can only mean a directory. -/
def endsInSlash (path : String) : Bool :=
  path.toList.getLast? = some '/'

/-- A name without its extension. The dot in front of a hidden name starts no extension. -/
def stem (name : List Char) : List Char :=
  let reversed := name.reverse
  match reversed.dropWhile (· ≠ '.') with
  | _ :: before => if before.isEmpty then name else before.reverse
  | [] => name

/-- Drop the slashes and single dots that may follow the last name; the fuel bounds their number. -/
def dropTrailing : Nat → List Char → List Char
  | 0, reversed => reversed
  | fuel + 1, reversed =>
      match reversed with
      | '/' :: rest => dropTrailing fuel rest
      | '.' :: '/' :: rest => dropTrailing fuel rest
      | _ => reversed

/-- Replace the extension of the last name of a path, or give it one. A path without a last name
stays as it is. Where only two dots would stand in front of the new extension, they lead to the
directory above and take none. -/
def withExtension (path ext : String) : String :=
  let reversed := dropTrailing path.length path.toList.reverse
  let name := (reversed.takeWhile (· ≠ '/')).reverse
  let directory := (reversed.dropWhile (· ≠ '/')).reverse
  if name = [] ∨ name = ['.'] ∨ name = ['.', '.'] then path
  else if stem name = ['.'] then String.ofList (directory ++ ['.', '.'])
  else String.ofList (directory ++ stem name ++ '.' :: ext.toList)

end Path

/-- Where something is: the names that lead to it from the root. -/
abbrev Place := List (List Char)

def Place.path (place : Place) : String :=
  "/".intercalate (place.map String.ofList)

/-- The files and directories of a system, and the directory where paths start that do not start
with a slash. -/
structure Files where
  entries : List (Place × String)
  directories : List Place
  workingDirectory : Place

namespace Files

def ofPaths (entries : List (String × String)) : Files where
  entries := entries.map fun (path, text) => ("work".toList :: Path.steps path, text)
  directories := []
  workingDirectory := ["work".toList]

def get? (files : Files) (place : Place) : Option String :=
  files.entries.lookup place

/-- The directories that are known to be there; those on the way to them are there as well. -/
def knownDirectories (files : Files) : List Place :=
  [] :: files.workingDirectory :: files.directories ++
    files.entries.map fun entry => entry.1.dropLast

def isDirectory (files : Files) (place : Place) : Bool :=
  files.knownDirectories.any fun known => place.isPrefixOf known

/-- The place one step from a directory. There is nothing above the root. -/
def step (place : Place) (step : List Char) : Place :=
  if step = ['.'] then place
  else if step = ['.', '.'] then place.dropLast
  else place ++ [step]

/-- Take steps from a place. Every step has to start in a directory. -/
def walk (files : Files) : Place → List (List Char) → Except FileFault Place
  | place, [] => .ok place
  | place, name :: rest =>
      if files.isDirectory place then files.walk (step place name) rest
      else if (files.get? place).isSome then .error .notDirectory
      else .error .notFound

def start (files : Files) (path : String) : Place :=
  if Path.isAbsolute path then [] else files.workingDirectory

def locate (files : Files) (path : String) : Except FileFault Place :=
  if path.isEmpty then .error .notFound
  else files.walk (files.start path) (Path.steps path)

def read (files : Files) (path : String) : Except FileFault String :=
  match files.locate path with
  | .error fault => .error fault
  | .ok place =>
      match files.get? place with
      | some text => if Path.endsInSlash path then .error .notDirectory else .ok text
      | none => if files.isDirectory place then .error .isDirectory else .error .notFound

/-- The place of the file that is written under a path: any place in a directory that is there, if
it is no directory itself. -/
def target (files : Files) (path : String) : Except FileFault Place :=
  match files.locate path with
  | .error fault => .error fault
  | .ok place =>
      if files.isDirectory place || Path.endsInSlash path then .error .isDirectory
      else .ok place

end Files

end Chronogram.CommandLine
