import Marquee.Block.Kind
import Marquee.Block.Setting
import Marquee.Color

/-!
# Programs

A program is a start block with a chain of statements in it. Statements hold chains in their
statement sockets and inputs in their value sockets; every statement and every value block may
carry an id.
-/

namespace Marquee

def defaultFilename : String := "image.bmp"

def defaultFolder : String := "animation_folder"

/-- The duration of an animation when none is given, in milliseconds. -/
def defaultPlayFor : UInt64 := 500

def defaultRandomMin : Int64 := 0

def defaultRandomMax : Int64 := 1000

def defaultVariable : String := "myVar"

def defaultColor : String := "#FF0000"

def maxPin : UInt8 := 40

mutual

/-- What a value socket holds: nothing, a literal, or a value block. -/
inductive Input where
  | empty
  | number (value : Int64)
  | text (text : String)
  | block (id : Option String) (expression : Expression)

/-- What a value block computes. -/
inductive Expression where
  | number (value : Int64)
  | randomRange (min max : Int64)
  | getVariable (name : String)
  | compare (left : Input) (relation : Relation) (right : Input)
  | colorValue (color : String)
  | customColor (color : String)
  | rgbColor (color : Color)

end

deriving instance DecidableEq, Inhabited for Input, Expression

mutual

/-- What a statement does. A value block can stand where a statement should. -/
inductive Statement where
  | start (actions : Chain)
  | displayImage (filename : String)
  | playAnimation (folder : String) (playFor : UInt64)
  | wait (time : Input)
  | branch (condition : Input) (whenTrue whenFalse : Chain)
  | setVariable (name : String) (value : Input)
  | forever (body : Chain)
  | repeatLoop (times : Input) (body : Chain)
  | whileLoop (condition : Input) (body : Chain)
  | breakLoop
  | gpio (pin : UInt8) (level : Level)
  | gpioBranch (pin : UInt8) (level : Level) (whenTrue whenFalse : Chain)
  | gpioTrigger (pin : UInt8) (trigger : Trigger) (actions : Chain)
  | setColor (color : Input)
  | value (expression : Expression)

inductive Chain where
  | nil
  | link (id : Option String) (statement : Statement) (next : Chain)

end

deriving instance DecidableEq, Inhabited for Statement, Chain

/-- A statement with its id and the chain that follows it. -/
structure Node where
  id : Option String
  statement : Statement
  next : Chain
  deriving DecidableEq, Inhabited

/-- A program: the start block at its root, with the chain inside it. Text may also carry a chain
after the root, which is kept but never executed. -/
structure Program where
  id : Option String
  actions : Chain
  next : Chain
  deriving DecidableEq, Inhabited

def Expression.kind : Expression → Kind
  | .number _ => .number
  | .randomRange _ _ => .randomRange
  | .getVariable _ => .getVariable
  | .compare _ _ _ => .compare
  | .colorValue _ => .colorValue
  | .customColor _ => .customColor
  | .rgbColor _ => .rgbColor

def Statement.kind : Statement → Kind
  | .start _ => .start
  | .displayImage _ => .displayImage
  | .playAnimation _ _ => .playAnimation
  | .wait _ => .wait
  | .branch _ _ _ => .branch
  | .setVariable _ _ => .setVariable
  | .forever _ => .forever
  | .repeatLoop _ _ => .repeatLoop
  | .whileLoop _ _ => .whileLoop
  | .breakLoop => .breakLoop
  | .gpio _ _ => .gpio
  | .gpioBranch _ _ _ _ => .gpioBranch
  | .gpioTrigger _ _ _ => .gpioTrigger
  | .setColor _ => .setColor
  | .value expression => expression.kind

theorem Expression.isValue_kind (expression : Expression) : expression.kind.isValue := by
  cases expression <;> rfl

/-- A statement socket of a statement, in the order of the editor. -/
def Statement.slots : Statement → List Chain
  | .start actions => [actions]
  | .branch _ whenTrue whenFalse => [whenTrue, whenFalse]
  | .forever body => [body]
  | .repeatLoop _ body => [body]
  | .whileLoop _ body => [body]
  | .gpioBranch _ _ whenTrue whenFalse => [whenTrue, whenFalse]
  | .gpioTrigger _ _ actions => [actions]
  | _ => []

namespace Chain

def head? : Chain → Option Node
  | nil => none
  | link id statement next => some ⟨id, statement, next⟩

def nodes : Chain → List Node
  | nil => []
  | link id statement next => ⟨id, statement, next⟩ :: next.nodes

/-- Links statements in the order of a list; what followed each of them is dropped. -/
def ofNodes : List Node → Chain
  | [] => nil
  | node :: rest => link node.id node.statement (ofNodes rest)

/-- The number of statements, not counting those inside others. -/
def length : Chain → Nat
  | nil => 0
  | link _ _ next => next.length + 1

def append : Chain → Chain → Chain
  | nil, rest => rest
  | link id statement next, rest => link id statement (next.append rest)

instance : Append Chain :=
  ⟨append⟩

end Chain

namespace Node

def toChain (node : Node) : Chain :=
  .link node.id node.statement node.next

def kind (node : Node) : Kind :=
  node.statement.kind

def program? (node : Node) : Option Program :=
  match node.statement with
  | .start actions => some ⟨node.id, actions, node.next⟩
  | _ => none

end Node

namespace Program

def root (program : Program) : Node :=
  ⟨program.id, .start program.actions, program.next⟩

/-- A program of these actions, without ids or a chain after the root. -/
def ofActions (actions : Chain) : Program :=
  ⟨none, actions, .nil⟩

end Program

end Marquee
