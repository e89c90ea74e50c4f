import Chronogram.Config
import Chronogram.Source.Script

/-!
What can be wrong with a line.

A fault says what is wrong; together with the number of the line it makes up an error. In lenient
reading a line that is no statement is not an error but a warning with the same wording.
-/

namespace Chronogram

inductive Limit where
  | tickTime
  | stateIndex
  deriving Repr, DecidableEq

def Limit.greatest : Limit → Nat
  | .tickTime => 100000
  | .stateIndex => 4096

def Limit.name : Limit → String
  | .tickTime => "tick time"
  | .stateIndex => "state index"

/-- What is wrong with a line. -/
inductive Fault where
  | unknownConfigKey (key : String)
  | invalidConfigValue (key value : String) (expectation : Config.Expectation)
  | invalidStyle (style : String)
  | unknownLifeline (name : String)
  | unknownState (lifeline state : String)
  | invalidStateIndex (token : String)
  | invalidNumber (token : String)
  | limitExceeded (limit : Limit) (value : Nat)
  | unrecognizedStatement (text : String)
  deriving Repr, DecidableEq

def Fault.message : Fault → String
  | .unknownConfigKey key => "unknown config key `" ++ key ++ "`"
  | .invalidConfigValue key value expectation =>
      "invalid value `" ++ value ++ "` for config key `" ++ key ++ "`: " ++ expectation.message
  | .invalidStyle style =>
      "unknown lifeline style `" ++ style ++ "` (expected Normal, Simplified or Slice)"
  | .unknownLifeline name => "lifeline \"" ++ name ++ "\" is not declared"
  | .unknownState lifeline state =>
      "state \"" ++ state ++ "\" is not declared for lifeline \"" ++ lifeline ++ "\""
  | .invalidStateIndex token => "invalid state index `" ++ token ++ "`"
  | .invalidNumber token => "invalid number `" ++ token ++ "`"
  | .limitExceeded limit value =>
      limit.name ++ " " ++ toString value ++ " exceeds the maximum of " ++ toString limit.greatest
  | .unrecognizedStatement text => "unrecognized statement: " ++ text

structure LineFault where
  line : Nat
  fault : Fault
  deriving Repr, DecidableEq

def LineFault.message (error : LineFault) : String :=
  "line " ++ toString error.line ++ ": " ++ error.fault.message

/-- A line that was passed over because it is no statement. -/
structure Warning where
  line : Nat
  text : String
  deriving Repr, DecidableEq

def Warning.message (warning : Warning) : String :=
  LineFault.message ⟨warning.line, .unrecognizedStatement warning.text⟩

end Chronogram
