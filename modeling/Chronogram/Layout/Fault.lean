/-!
References that do not resolve.

Layout refuses a diagram whose spans or arrows point at something that is not there, and one in
which a lifeline is in a state that has no row.
-/

namespace Chronogram

inductive Referrer where
  | span
  | arrow
  deriving Repr, DecidableEq

def Referrer.name : Referrer → String
  | .span => "span"
  | .arrow => "arrow"

/-- Why a diagram cannot be laid out. -/
inductive LayoutFault where
  | unknownLifeline (referrer : Referrer) (name : String)
  | tickOutOfRange (referrer : Referrer) (lifeline : String) (tick tickCount : Nat)
  | attachmentOutOfRange (lifeline : String) (tick slot available : Nat)
  | unknownState (lifeline : String) (tick state : Nat)
  deriving Repr, DecidableEq

def LayoutFault.message : LayoutFault → String
  | .unknownLifeline referrer name =>
      referrer.name ++ " references unknown lifeline \"" ++ name ++ "\""
  | .tickOutOfRange referrer lifeline tick tickCount =>
      referrer.name ++ " on lifeline \"" ++ lifeline ++ "\" references tick " ++ toString tick ++
        ", but the diagram has " ++ toString tickCount ++ " ticks"
  | .attachmentOutOfRange lifeline tick slot available =>
      "arrow references attachment " ++ toString slot ++ " of lifeline \"" ++ lifeline ++
        "\" at tick " ++ toString tick ++ ", which only has " ++ toString available
  | .unknownState lifeline tick state =>
      "lifeline \"" ++ lifeline ++ "\" is in undeclared state " ++ toString state ++ " at tick " ++
        toString tick

end Chronogram
