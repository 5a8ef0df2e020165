import Marquee.Json.Basic

/-!
# Places in a document

An error names the place of the block at fault by the way that leads to it from the root: into a
field, to the first block of a list, or along a number of links to the block that follows.
-/

namespace Marquee

/-- One step on the way to a place. -/
inductive PathStep where
  | field (name : String)
  | first
  /-- Along this many links from a block to the one that follows it. -/
  | next (count : Nat)
  deriving DecidableEq, Repr

/-- The way from the root to a place. -/
structure Path where
  steps : List PathStep
  deriving DecidableEq, Repr

def PathStep.text : PathStep → String
  | field name => "." ++ name
  | first => "[0]"
  | next count => ".next[" ++ toString count ++ "]"

namespace Path

def root : Path :=
  ⟨[]⟩

/-- The path with one more step at its end. -/
def step (path : Path) (last : PathStep) : Path :=
  ⟨path.steps ++ [last]⟩

/-- The block that a number of links lead to from here. -/
def after (path : Path) : Nat → Path
  | 0 => path
  | count + 1 => path.step (.next (count + 1))

/-- The text of a path: a dollar sign for the root, then the steps. -/
def text (path : Path) : String :=
  "$" ++ String.join (path.steps.map PathStep.text)

end Path

end Marquee
