/-!
# Settings of blocks

The fixed choices that a block offers in a drop-down: a relation between two values, the level of a
pin, and the event that a trigger waits for. The first of each is the default.
-/

namespace Marquee

inductive Relation where
  | eq
  | neq
  | lt
  | gt
  | lte
  | gte
  deriving DecidableEq, Repr, Inhabited

namespace Relation

/-- All relations, the default first. -/
def all : List Relation :=
  [eq, neq, lt, gt, lte, gte]

/-- The name in program text and in the editor. -/
def name : Relation → String
  | eq => "EQ"
  | neq => "NEQ"
  | lt => "LT"
  | gt => "GT"
  | lte => "LTE"
  | gte => "GTE"

def ofName? (name : String) : Option Relation :=
  all.find? fun relation => relation.name == name

theorem ofName?_name (relation : Relation) : ofName? relation.name = some relation := by
  cases relation <;> decide

end Relation

inductive Level where
  | high
  | low
  deriving DecidableEq, Repr, Inhabited

namespace Level

/-- Both levels, the default first. -/
def all : List Level :=
  [high, low]

/-- The name in program text and in the editor. -/
def name : Level → String
  | high => "HIGH"
  | low => "LOW"

def ofName? (name : String) : Option Level :=
  all.find? fun level => level.name == name

/-- Whether a pin at this level is on. -/
def isHigh : Level → Bool
  | high => true
  | low => false

theorem ofName?_name (level : Level) : ofName? level.name = some level := by
  cases level <;> decide

end Level

/-- The event on a pin that a trigger waits for. -/
inductive Trigger where
  | rising
  | falling
  | both
  | high
  | low
  deriving DecidableEq, Repr, Inhabited

namespace Trigger

/-- All triggers, the default first. -/
def all : List Trigger :=
  [rising, falling, both, high, low]

/-- The name in program text and in the editor. -/
def name : Trigger → String
  | rising => "RISING"
  | falling => "FALLING"
  | both => "BOTH"
  | high => "HIGH"
  | low => "LOW"

def ofName? (name : String) : Option Trigger :=
  all.find? fun trigger => trigger.name == name

theorem ofName?_name (trigger : Trigger) : ofName? trigger.name = some trigger := by
  cases trigger <;> decide

end Trigger

end Marquee
