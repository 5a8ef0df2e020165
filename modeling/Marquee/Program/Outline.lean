import Marquee.Program.Basic

/-!
# Outlines of programs

An outline lists the statements of a program from top to bottom, with the depth at which each is
nested. An empty statement socket has a line of its own. The drawn outline shows a statement with
its id and its literal fields, the way the editor does.
-/

namespace Marquee

/-- One line of an outline: a statement, or an empty statement socket. -/
inductive OutlineEntry where
  | statement (id : Option String) (statement : Statement)
  | empty
  deriving DecidableEq

structure OutlineLine where
  depth : Nat
  entry : OutlineEntry
  deriving DecidableEq

/-- The outline of a statement socket: its chain, or the line that says it is empty. -/
def slotLines (depth : Nat) (lines : List OutlineLine) : List OutlineLine :=
  if lines.isEmpty then [⟨depth, .empty⟩] else lines

mutual

def Statement.outline (depth : Nat) : Statement → List OutlineLine
  | .start actions => slotLines depth (actions.outline depth)
  | .branch _ whenTrue whenFalse =>
    slotLines depth (whenTrue.outline depth) ++ slotLines depth (whenFalse.outline depth)
  | .forever body => slotLines depth (body.outline depth)
  | .repeatLoop _ body => slotLines depth (body.outline depth)
  | .whileLoop _ body => slotLines depth (body.outline depth)
  | .gpioBranch _ _ whenTrue whenFalse =>
    slotLines depth (whenTrue.outline depth) ++ slotLines depth (whenFalse.outline depth)
  | .gpioTrigger _ _ actions => slotLines depth (actions.outline depth)
  | .displayImage _ => []
  | .playAnimation _ _ => []
  | .wait _ => []
  | .setVariable _ _ => []
  | .breakLoop => []
  | .gpio _ _ => []
  | .setColor _ => []
  | .value _ => []

def Chain.outline (depth : Nat) : Chain → List OutlineLine
  | .nil => []
  | .link id statement next =>
    ⟨depth, .statement id statement⟩ :: statement.outline (depth + 1) ++ next.outline depth

end

def Program.outline (program : Program) : List OutlineLine :=
  program.root.toChain.outline 0

/-- An input in a few characters. A value block shows its kind alone. -/
def Input.label : Input → String
  | .empty => "-"
  | .number value => toString value.toInt
  | .text literal => literal
  | .block _ expression => expression.kind.name

/-- The literal fields of a statement, each after a space. -/
def Statement.label : Statement → String
  | .displayImage filename => " " ++ filename
  | .playAnimation folder playFor => " " ++ folder ++ " for " ++ toString playFor.toNat ++ "ms"
  | .wait time => " " ++ time.label
  | .repeatLoop times _ => " x" ++ times.label
  | .branch condition _ _ => " " ++ condition.label
  | .whileLoop condition _ => " " ++ condition.label
  | .setVariable name stored => " " ++ name ++ " = " ++ stored.label
  | .gpio pin level => " pin " ++ toString pin.toNat ++ " " ++ level.name
  | .gpioBranch pin level _ _ => " pin " ++ toString pin.toNat ++ " is " ++ level.name
  | .gpioTrigger pin trigger _ => " pin " ++ toString pin.toNat ++ " on " ++ trigger.name
  | .setColor color => " " ++ color.label
  | _ => ""

def OutlineEntry.label : OutlineEntry → String
  | .empty => "(empty)"
  | .statement id block =>
    let name :=
      match id with
      | some id => " #" ++ id
      | none => ""
    block.kind.name ++ name ++ block.label

/-- A line of an outline, indented by two spaces a level. -/
def OutlineLine.draw (line : OutlineLine) : String :=
  String.ofList (List.replicate (2 * line.depth) ' ') ++ line.entry.label ++ "\n"

def Program.drawOutline (program : Program) : String :=
  String.join (program.outline.map OutlineLine.draw)

end Marquee
