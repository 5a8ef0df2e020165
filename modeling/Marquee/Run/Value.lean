import Marquee.Program.Basic
import Marquee.Table
import Marquee.Text.Numeral
import Marquee.Text.Order

/-!
# Values of a running program

A value is a number, a truth value or a text, and can be taken for each of the others: zero, false
and the empty text count as false; a text that is no integer counts as zero.
-/

namespace Marquee

inductive Value where
  | number (value : Int64)
  | bool (value : Bool)
  | text (text : String)
  deriving DecidableEq, Repr, Inhabited

namespace Value

/-- The value of what is absent. -/
def zero : Value :=
  number 0

def isTruthy : Value → Bool
  | number n => n != 0
  | bool b => b
  | text literal => literal != ""

/-- The value as a number. Blanks around a numeral do not matter. -/
def toNumber : Value → Int64
  | number n => n
  | bool b => if b then 1 else 0
  | text literal => (Text.readInt64 (Text.trim literal.toList)).getD 0

def text? : Value → Option String
  | text literal => some literal
  | _ => none

def shown : Value → String
  | number n => toString n.toInt
  | bool b => if b then "true" else "false"
  | text literal => literal

/-- The order of two texts by code points. -/
def textOrder (left right : String) : Ordering :=
  if left = right then .eq else if Text.before left right then .lt else .gt

def numberOrder (left right : Int64) : Ordering :=
  if left.toInt < right.toInt then .lt else if left.toInt = right.toInt then .eq else .gt

/-- The order of two values: two texts by code points, and anything else as numbers. -/
def order : Value → Value → Ordering
  | text left, text right => textOrder left right
  | left, right => numberOrder left.toNumber right.toNumber

end Value

/-- Whether two values stand in a relation. Equality does not convert: values of different sorts
are different. -/
def Relation.holds (relation : Relation) (left right : Value) : Bool :=
  match relation with
  | eq => left = right
  | neq => left ≠ right
  | lt => Value.order left right == .lt
  | gt => Value.order left right == .gt
  | lte => Value.order left right != .gt
  | gte => Value.order left right != .lt

structure Variables where
  values : Table Value
  deriving DecidableEq, Inhabited

namespace Variables

def empty : Variables :=
  ⟨.empty⟩

/-- The value of a variable. One that is unset, or holds what counts as false, reads as zero. -/
def get (store : Variables) (name : String) : Value :=
  match store.values.get? name with
  | some value => if value.isTruthy then value else .zero
  | none => .zero

def set (store : Variables) (name : String) (value : Value) : Variables :=
  ⟨store.values.set name value⟩

def size (store : Variables) : Nat :=
  store.values.size

end Variables

end Marquee
