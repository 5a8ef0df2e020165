import Marquee.Block.Kind

/-!
# Refusals of an editor

Why an editor does not do what it is asked for.
-/

namespace Marquee

/-- Why two blocks cannot be connected. -/
inductive ConnectionFault where
  /-- The child has no connection to a block before it. -/
  | noPrevious
  | noOutput
  /-- One of two statements has no connection to the other. -/
  | notChainable
  /-- The parent lies inside the child. -/
  | cycle
  deriving DecidableEq, Repr

def ConnectionFault.message : ConnectionFault → String
  | noPrevious => "block has no previous connection"
  | noOutput => "block has no output connection"
  | notChainable => "blocks cannot be chained"
  | cycle => "connection would create a cycle"

inductive Refusal where
  | rejected (kind : Kind)
  | missingInput (kind : Kind) (input : String)
  | missingField (kind : Kind) (field : String)
  | connection (parent child : Kind) (fault : ConnectionFault)
  | unknownBlock
  deriving DecidableEq, Repr

def Refusal.message : Refusal → String
  | rejected kind => "Cannot create block of kind " ++ kind.name
  | missingInput kind input => "Block " ++ kind.name ++ " has no input " ++ input
  | missingField kind field => "Block " ++ kind.name ++ " has no field " ++ field
  | connection parent child fault =>
    "Cannot connect " ++ child.name ++ " to " ++ parent.name ++ ": " ++ fault.message
  | unknownBlock => "Unknown block handle"

end Marquee
