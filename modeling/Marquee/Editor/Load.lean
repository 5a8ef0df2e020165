import Marquee.Editor.Sink
import Marquee.Document.Reader

/-!
# Loading a program into an editor

A program is built block by block: a block is made, its fields are set, its inputs and its chains
are built and connected. A part that the editor refuses is skipped and the rest goes on; only a
refused start block makes the load fail. A block whose id was already built in the same load is
not built again, and neither is anything that hangs on it.
-/

namespace Marquee

def presetColors : List String :=
  ["#FF0000", "#00FF00", "#0000FF", "#FFFF00", "#FF00FF", "#00FFFF", "#FFFFFF", "#FF8000",
    "#FF69B4", "#32CD32", "#8B4513", "#000000", "RANDOM"]

/-- What became of the blocks of a program. -/
structure LoadReport where
  /-- Blocks that were made, the root included. -/
  created : Nat
  /-- Blocks whose id was already built. -/
  reused : Nat
  skipped : Nat
  deriving DecidableEq, Repr, Inhabited

/-- A load under way: the editor, the blocks built so far by id, and the report so far. -/
structure Loading (σ β : Type) where
  editor : σ
  placed : List (String × β)
  report : LoadReport

/-- What became of a request for a block. -/
inductive Placement (β : Type) where
  | fresh (block : β)
  /-- The id was already built. -/
  | reused (block : β)
  | refused (refusal : Refusal)

namespace Loading

variable {σ β : Type}

def start (editor : σ) : Loading σ β :=
  ⟨editor, [], ⟨0, 0, 0⟩⟩

def skip (loading : Loading σ β) : Loading σ β :=
  { loading with report := { loading.report with skipped := loading.report.skipped + 1 } }

/-- Counts a skipped block if a request was refused. -/
def settle (loading : Loading σ β) (answer : Except Refusal Unit × σ) : Loading σ β :=
  let after := { loading with editor := answer.2 }
  match answer.1 with
  | .ok () => after
  | .error _ => after.skip

/-- Makes a block, or finds the one that carries its id. -/
def place (sink : Sink σ β) (id : Option String) (kind : Kind) (loading : Loading σ β) :
    Placement β × Loading σ β :=
  match id.bind fun id => loading.placed.lookup id with
  | some block =>
    (.reused block,
      { loading with report := { loading.report with reused := loading.report.reused + 1 } })
  | none =>
    match sink.allocate kind loading.editor with
    | (.error refusal, editor) => (.refused refusal, { loading with editor })
    | (.ok block, editor) =>
      let placed :=
        match id with
        | some id => (id, block) :: loading.placed
        | none => loading.placed
      let report := { loading.report with created := loading.report.created + 1 }
      (.fresh block, ⟨editor, placed, report⟩)

/-- Sets a field. A refusal is passed over. -/
def setField (sink : Sink σ β) (block : β) (field : String) (value : FieldValue)
    (loading : Loading σ β) : Loading σ β :=
  { loading with editor := (sink.setField block field value loading.editor).2 }

def setNumber (sink : Sink σ β) (block : β) (field : String) (value : Int64)
    (loading : Loading σ β) : Loading σ β :=
  loading.setField sink block field (.number value)

def setText (sink : Sink σ β) (block : β) (field : String) (text : String)
    (loading : Loading σ β) : Loading σ β :=
  loading.setField sink block field (.text text)

def plug (sink : Sink σ β) (parent : β) (socket : String) (child : β) (loading : Loading σ β) :
    Loading σ β :=
  loading.settle (sink.connectValue parent socket child loading.editor)

end Loading

/-- The kind of block that a literal text becomes inside a block of a kind. -/
def literalKind (parent : Kind) (text : String) : Kind :=
  if parent = .setColor ∧ text ∈ presetColors then .colorValue else .customColor

def byteField (value : UInt8) : Int64 :=
  Int64.ofNat value.toNat

/-- A duration as a field value, cut at the largest that a field holds. -/
def durationField (milliseconds : UInt64) : Int64 :=
  if milliseconds.toNat < signedLimit then Int64.ofNat milliseconds.toNat else Int64.maxValue

section

variable {σ β : Type} (sink : Sink σ β)

mutual

def Input.load (parent : β) (parentKind : Kind) (socket : String) (input : Input)
    (loading : Loading σ β) : Loading σ β :=
  match input with
  | .empty => loading
  | .number value =>
    match loading.place sink none .number with
    | (.fresh block, loading) =>
      (loading.setNumber sink block "NUMBER" value).plug sink parent socket block
    | (_, loading) => loading.skip
  | .text text =>
    match loading.place sink none (literalKind parentKind text) with
    | (.fresh block, loading) =>
      (loading.setText sink block "COLOR" text).plug sink parent socket block
    | (_, loading) => loading.skip
  | .block id expression =>
    match loading.place sink id expression.kind with
    | (.fresh block, loading) => (expression.load block loading).plug sink parent socket block
    | (.reused _, loading) => loading
    | (.refused _, loading) => loading.skip

/-- Sets the fields of a value block and builds its inputs. -/
def Expression.load (block : β) (expression : Expression) (loading : Loading σ β) :
    Loading σ β :=
  match expression with
  | .number value => loading.setNumber sink block "NUMBER" value
  | .randomRange min max =>
    (loading.setNumber sink block "MIN" min).setNumber sink block "MAX" max
  | .getVariable name => loading.setText sink block "VAR_NAME" name
  | .compare left relation right =>
    right.load block .compare "RIGHT" <| left.load block .compare "LEFT" <|
      loading.setText sink block "OPERATOR" relation.name
  | .colorValue color => loading.setText sink block "COLOR" color
  | .customColor color => loading.setText sink block "COLOR" color
  | .rgbColor color =>
    ((loading.setNumber sink block "RED" (byteField color.red)).setNumber sink block "GREEN"
      (byteField color.green)).setNumber sink block "BLUE" (byteField color.blue)

end

mutual

/-- Sets the fields of a statement and builds its inputs and chains. -/
def Statement.load (block : β) (statement : Statement) (loading : Loading σ β) : Loading σ β :=
  match statement with
  | .start actions => actions.loadSlot block "DO" loading
  | .displayImage filename => loading.setText sink block "FILENAME" filename
  | .playAnimation folder playFor =>
    (loading.setText sink block "FOLDER" folder).setNumber sink block "PLAY_FOR"
      (durationField playFor)
  | .wait time => time.load sink block .wait "TIME" loading
  | .branch condition whenTrue whenFalse =>
    whenFalse.loadSlot block "FALSE" <| whenTrue.loadSlot block "TRUE" <|
      condition.load sink block .branch "CONDITION" loading
  | .setVariable name value =>
    value.load sink block .setVariable "VALUE" (loading.setText sink block "VAR_NAME" name)
  | .forever body => body.loadSlot block "DO" loading
  | .repeatLoop times body =>
    body.loadSlot block "DO" (times.load sink block .repeatLoop "TIMES" loading)
  | .whileLoop condition body =>
    body.loadSlot block "DO" (condition.load sink block .whileLoop "CONDITION" loading)
  | .breakLoop => loading
  | .gpio pin level =>
    (loading.setNumber sink block "PIN" (byteField pin)).setText sink block "STATE" level.name
  | .gpioBranch pin level whenTrue whenFalse =>
    whenFalse.loadSlot block "FALSE" <| whenTrue.loadSlot block "TRUE" <|
      (loading.setNumber sink block "PIN" (byteField pin)).setText sink block "STATE" level.name
  | .gpioTrigger pin trigger actions =>
    actions.loadSlot block "DO" <|
      (loading.setNumber sink block "PIN" (byteField pin)).setText sink block "TRIGGER"
        trigger.name
  | .setColor color => color.load sink block .setColor "COLOR" loading
  | .value expression => expression.load sink block loading

/-- Builds a chain and plugs its first statement into a socket of its parent. -/
def Chain.loadSlot (parent : β) (socket : String) (chain : Chain) (loading : Loading σ β) :
    Loading σ β :=
  match chain with
  | .nil => loading
  | .link id statement next =>
    match loading.place sink id statement.kind with
    | (.fresh block, loading) =>
      let loading := next.loadAfter block (statement.load block loading)
      loading.settle (sink.connectStatement parent socket block loading.editor)
    | (.reused _, loading) => loading
    | (.refused _, loading) => loading.skip

/-- Builds the statements that follow one, each connected to the one before it. The chain ends
early at a statement that cannot be made or connected, or that was already built. -/
def Chain.loadAfter (previous : β) (chain : Chain) (loading : Loading σ β) : Loading σ β :=
  match chain with
  | .nil => loading
  | .link id statement next =>
    match loading.place sink id statement.kind with
    | (.fresh block, loading) =>
      let loading := statement.load block loading
      match sink.connectNext previous block loading.editor with
      | (.ok (), editor) => next.loadAfter block { loading with editor }
      | (.error _, editor) => { loading with editor }.skip
    | (.reused _, loading) => loading
    | (.refused _, loading) => loading.skip

end

/-- Builds a program in an editor. Gives the start block and the report, unless the editor refuses
the start block. -/
def Program.load (program : Program) (editor : σ) :
    Except LoadError (β × LoadReport) × σ :=
  match (Loading.start editor).place sink program.id .start with
  | (.fresh block, loading) =>
    let loading := program.actions.loadSlot sink block "DO" loading
    (.ok (block, loading.report), loading.editor)
  | (.reused block, loading) => (.ok (block, loading.report), loading.editor)
  | (.refused refusal, loading) => (.error (.rootRefused refusal), loading.editor)

def Document.load (text : String) (editor : σ) : Except LoadError (β × LoadReport) × σ :=
  match Document.parse text >>= Document.toProgram with
  | .ok content => content.load sink editor
  | .error error => (.error error, editor)

end

end Marquee
