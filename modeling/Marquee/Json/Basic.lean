import Marquee.Text.Order

/-!
# JSON values

Numbers are integers or binary64 numbers, the latter given by their bits so that values can be
compared. The members of an object form a list; `Members.insert` keeps it sorted by key, so that a
value read from text has each key once and in ascending order.
-/

namespace Marquee

inductive Json.Number where
  | int (value : Int)
  | float (bits : UInt64)
  deriving DecidableEq, Repr

mutual

inductive Json where
  | null
  | bool (value : Bool)
  | number (value : Json.Number)
  | string (text : String)
  | array (items : Json.Items)
  | object (members : Json.Members)

inductive Json.Items where
  | nil
  | cons (head : Json) (tail : Json.Items)

inductive Json.Members where
  | nil
  | cons (key : String) (value : Json) (rest : Json.Members)

end

deriving instance DecidableEq, Inhabited for Json, Json.Items, Json.Members

namespace Json

def int (n : Int) : Json :=
  .number (.int n)

mutual

/-- A measure of a value that is larger than that of every value inside it. -/
def size : Json → Nat
  | .null => 1
  | .bool _ => 1
  | .number _ => 1
  | .string _ => 1
  | .array items => items.size + 1
  | .object members => members.size + 1

def Items.size : Items → Nat
  | .nil => 0
  | .cons head tail => head.size + tail.size + 1

def Members.size : Members → Nat
  | .nil => 0
  | .cons _ value rest => value.size + rest.size + 1

end

namespace Items

def toList : Items → List Json
  | nil => []
  | cons head tail => head :: tail.toList

def ofList : List Json → Items
  | [] => nil
  | head :: tail => cons head (ofList tail)

@[simp] theorem ofList_toList (items : Items) : ofList items.toList = items := by
  match items with
  | nil => rfl
  | cons head tail => simp [ofList, toList, ofList_toList tail]

end Items

namespace Members

def toList : Members → List (String × Json)
  | nil => []
  | cons key value rest => (key, value) :: rest.toList

def ofList : List (String × Json) → Members
  | [] => nil
  | (key, value) :: rest => cons key value (ofList rest)

def get? (name : String) : Members → Option Json
  | nil => none
  | cons key value rest => if key = name then some value else rest.get? name

def has (name : String) (members : Members) : Bool :=
  (members.get? name).isSome

/-- Puts a value under a key, in ascending order of keys; an earlier value of the key is lost. -/
def insert (name : String) (value : Json) : Members → Members
  | nil => cons name value nil
  | cons key old rest =>
    if name = key then cons name value rest
    else if Text.before name key then cons name value (cons key old rest)
    else cons key old (rest.insert name value)

def erase (name : String) : Members → Members
  | nil => nil
  | cons key value rest => if key = name then rest.erase name else cons key value (rest.erase name)

/-- A value found under a key is smaller than its object. -/
theorem size_get? {name : String} {value : Json} {members : Members}
    (found : members.get? name = some value) :
    value.size ≤ members.size := by
  match members with
  | nil => simp [get?] at found
  | cons key other rest =>
    simp only [get?] at found
    split at found
    · cases found
      simp only [size]
      omega
    · have smaller := size_get? found
      simp only [size]
      omega

end Members

end Json

end Marquee
