import Marquee.Text.Numeral

/-!
# Arguments

The arguments of the two tools. A tool is given the name of a command, and then its operands and
options in any order. An option is long or short; its value follows it as the next argument or
behind an equals sign, and for a short option also without one. After two dashes everything is an
operand. No option may be given twice.

Arguments are taken from left to right, and the first one that settles what is asked for wins: one
that makes no sense, or a wish for help. Only a missing operand is noticed at the end.
-/

namespace Marquee

/-- The two tools: one works on program files, the other shows them on a panel. -/
inductive Tool where
  | blocks
  | panel
  deriving DecidableEq, Repr

def Tool.name : Tool → String
  | blocks => "led-blocks"
  | panel => "led-panel"

def toolVersion : String := "0.1.0"

inductive Command where
  /-- Load a program into an editor and show the report. -/
  | check (input : String)
  | outline (input : String)
  /-- Pass a program through an editor and write it in its canonical form. -/
  | format (input : String) (stripIds : Bool) (output : Option String)
  | kinds
  | play (input : String) (assets : Option String) (timeout seed : Option UInt64)
  | view (frame : String) (color : String)
  deriving DecidableEq, Repr

/-- What the arguments of a tool ask for. -/
inductive ToolRequest where
  | perform (command : Command)
  | version
  | help
  | misuse
  deriving DecidableEq, Repr

/-- What stands behind an option, or for an operand. -/
inductive ValueSort where
  | absent
  | text
  /-- A text that is not empty. -/
  | path
  /-- An unsigned integer of 64 bits. -/
  | number
  deriving DecidableEq, Repr

def ValueSort.admits (sort : ValueSort) (value : String) : Bool :=
  match sort with
  | absent => false
  | text => true
  | path => value != ""
  | number => (Text.readUInt64 value.toList).isSome

structure OptionSpec where
  long : String
  short : Option Char
  sort : ValueSort
  deriving DecidableEq, Repr

structure CommandSpec where
  /-- How many operands it has, all of them paths. -/
  operands : Nat
  options : List OptionSpec
  deriving DecidableEq, Repr

/-- What the arguments of a command are cut into: its operands, and its options with their values;
the value of an option without one is empty. -/
structure Arguments where
  operands : List String
  options : List (String × String)
  deriving DecidableEq, Repr

inductive Cut where
  | done (arguments : Arguments)
  | help
  | misuse
  deriving DecidableEq, Repr

namespace Arguments

def empty : Arguments :=
  ⟨[], []⟩

/-- One more operand, unless it is empty or there are enough. -/
def addOperand? (spec : CommandSpec) (arguments : Arguments) (operand : String) :
    Option Arguments :=
  if arguments.operands.length < spec.operands ∧ ValueSort.path.admits operand then
    some { arguments with operands := arguments.operands ++ [operand] }
  else none

def addOperands? (spec : CommandSpec) (arguments : Arguments) (operands : List String) :
    Option Arguments :=
  operands.foldlM (addOperand? spec) arguments

/-- One more option, unless it was given before. -/
def addOption? (arguments : Arguments) (long value : String) : Option Arguments :=
  if (arguments.options.lookup long).isSome then none
  else some { arguments with options := arguments.options ++ [(long, value)] }

/-- One more option with a value, unless it was given before or the value does not suit it. -/
def addValue? (arguments : Arguments) (option : OptionSpec) (value : String) :
    Option Arguments :=
  if option.sort.admits value then arguments.addOption? option.long value else none

def value? (arguments : Arguments) (long : String) : Option String :=
  arguments.options.lookup long

inductive Shape where
  | operand
  | twoDashes
  /-- A long option, and what follows its equals sign. -/
  | long (name : String) (attached : Option String)
  /-- A short option, and what follows it. -/
  | short (name : Char) (attached : List Char)

def splitValue (cs : List Char) : String × Option String :=
  let name := String.ofList (cs.takeWhile (· != '='))
  match cs.dropWhile (· != '=') with
  | [] => (name, none)
  | _ :: value => (name, some (String.ofList value))

/-- The looks of an argument. A single dash is an operand. -/
def shapeOf (argument : String) : Shape :=
  match argument.toList with
  | ['-', '-'] => .twoDashes
  | '-' :: '-' :: cs => .long (splitValue cs).1 (splitValue cs).2
  | '-' :: c :: cs => .short c cs
  | _ => .operand

/-- The value attached to a short option, without an equals sign in front. -/
def attachedValue : List Char → Option String
  | [] => none
  | '=' :: cs => some (String.ofList cs)
  | cs => some (String.ofList cs)

mutual

/-- Cuts arguments, some of which are cut already. -/
def cut (spec : CommandSpec) (done : Arguments) : List String → Cut
  | [] => .done done
  | argument :: rest =>
    match shapeOf argument with
    | .operand =>
      match done.addOperand? spec argument with
      | some done => cut spec done rest
      | none => .misuse
    | .twoDashes =>
      match done.addOperands? spec rest with
      | some done => .done done
      | none => .misuse
    | .long "help" none => .help
    | .long name attached =>
      match spec.options.find? fun option => option.long == name with
      | none => .misuse
      | some option =>
        if option.sort = .absent then
          match attached, done.addOption? name "" with
          | none, some done => cut spec done rest
          | _, _ => .misuse
        else
          match attached with
          | some value =>
            match done.addValue? option value with
            | some done => cut spec done rest
            | none => .misuse
          | none => cutValue spec done option rest
    | .short 'h' _ => .help
    | .short name attached =>
      match spec.options.find? fun option => option.short == some name with
      | none => .misuse
      | some option =>
        match attachedValue attached with
        | some value =>
          match done.addValue? option value with
          | some done => cut spec done rest
          | none => .misuse
        | none => cutValue spec done option rest

/-- Takes the next argument as the value of an option; it must look like an operand. -/
def cutValue (spec : CommandSpec) (done : Arguments) (option : OptionSpec) : List String → Cut
  | [] => .misuse
  | argument :: rest =>
    match shapeOf argument, done.addValue? option argument with
    | .operand, some done => cut spec done rest
    | _, _ => .misuse

end

end Arguments

namespace Command

def formatSpec : CommandSpec :=
  ⟨1, [⟨"strip-ids", none, .absent⟩, ⟨"output", some 'o', .path⟩]⟩

def playSpec : CommandSpec :=
  ⟨1, [⟨"assets", some 'a', .path⟩, ⟨"timeout", some 't', .number⟩, ⟨"seed", none, .number⟩]⟩

def viewSpec : CommandSpec :=
  ⟨1, [⟨"color", some 'c', .text⟩]⟩

/-- The commands of a tool with what they take. -/
def menu : Tool → List (String × CommandSpec)
  | .blocks => [("check", ⟨1, []⟩), ("tree", ⟨1, []⟩), ("fmt", formatSpec), ("kinds", ⟨0, []⟩)]
  | .panel => [("run", playSpec), ("view", viewSpec)]

def number? (arguments : Arguments) (long : String) : Option UInt64 :=
  (arguments.value? long).bind fun text => Text.readUInt64 text.toList

/-- A command of the tool for program files. -/
def ofBlocks? (name : String) (arguments : Arguments) : Option Command :=
  match name, arguments.operands with
  | "kinds", [] => some kinds
  | "check", [input] => some (check input)
  | "tree", [input] => some (outline input)
  | "fmt", [input] =>
    some (format input (arguments.value? "strip-ids").isSome (arguments.value? "output"))
  | _, _ => none

/-- A command of the tool for the panel. -/
def ofPanel? (name : String) (arguments : Arguments) : Option Command :=
  match name, arguments.operands with
  | "run", [input] =>
    some (play input (arguments.value? "assets") (number? arguments "timeout")
      (number? arguments "seed"))
  | "view", [frame] => some (view frame ((arguments.value? "color").getD "#FFFFFF"))
  | _, _ => none

end Command

namespace Tool

def command? (tool : Tool) (name : String) (arguments : Arguments) : Option Command :=
  match tool with
  | blocks => Command.ofBlocks? name arguments
  | panel => Command.ofPanel? name arguments

/-- What is asked for by the word `help` and the arguments after it: help on the tool or on one of
its commands. -/
def readHelp (tool : Tool) : List String → ToolRequest
  | [] => .help
  | [name] =>
    if name = "help" ∨ ((Command.menu tool).lookup name).isSome then .help else .misuse
  | _ => .misuse

/-- What is asked for by a command and its arguments. -/
def readCommand (tool : Tool) (name : String) (rest : List String) : ToolRequest :=
  match (Command.menu tool).lookup name with
  | none => .misuse
  | some spec =>
    match Arguments.cut spec .empty rest with
    | .help => .help
    | .misuse => .misuse
    | .done arguments =>
      match tool.command? name arguments with
      | some command => .perform command
      | none => .misuse

/-- Reads the arguments of a tool. Of short options in one argument the first counts. -/
def readArguments (tool : Tool) : List String → ToolRequest
  | [] => .misuse
  | name :: rest =>
    match Arguments.shapeOf name with
    | .long "version" none => .version
    | .short 'V' _ => .version
    | .long "help" none => .help
    | .short 'h' _ => .help
    | _ => if name = "help" then tool.readHelp rest else tool.readCommand name rest

end Tool

end Marquee
