import Marquee.Editor.Load
import Marquee.Editor.Save
import Marquee.Proofs.Program.Normal
import Marquee.Proofs.Program.Sockets

/-!
# What an editor shows

An editor shows a program when its blocks are of the kinds, hold the fields and hang as the program
says. Whoever saves such an editor finds the normal form of the program, with numbers cut to the
range of their fields.
-/

namespace Marquee

section

variable {β : Type} (source : Source β)

mutual

def Input.Shown : Option β → Input → Prop
  | held, .empty => held = none
  | held, .number value =>
    ∃ block, held = some block ∧ source.kind? block = some .number ∧
      source.field block "NUMBER" = some (.number value)
  | held, .text text =>
    ∃ block, held = some block ∧
      (source.kind? block = some .colorValue ∨ source.kind? block = some .customColor) ∧
      source.field block "COLOR" = some (.text text)
  | held, .block _ expression =>
    ∃ block, held = some block ∧ source.kind? block = some expression.kind ∧
      expression.Shown block

def Expression.Shown : β → Expression → Prop
  | block, .number value => source.field block "NUMBER" = some (.number value)
  | block, .randomRange min max =>
    source.field block "MIN" = some (.number min) ∧ source.field block "MAX" = some (.number max)
  | block, .getVariable name => source.field block "VAR_NAME" = some (.text name)
  | block, .compare left relation right =>
    left.Shown (source.value block "LEFT") ∧
      source.field block "OPERATOR" = some (.text relation.name) ∧
      right.Shown (source.value block "RIGHT")
  | block, .colorValue color => source.field block "COLOR" = some (.text color)
  | block, .customColor color => source.field block "COLOR" = some (.text color)
  | block, .rgbColor color =>
    source.field block "RED" = some (.number (byteField color.red)) ∧
      source.field block "GREEN" = some (.number (byteField color.green)) ∧
      source.field block "BLUE" = some (.number (byteField color.blue))

end

mutual

def Statement.Shown : β → Statement → Prop
  | block, .start actions => actions.Shown (source.statement block "DO")
  | block, .displayImage filename => source.field block "FILENAME" = some (.text filename)
  | block, .playAnimation folder playFor =>
    source.field block "FOLDER" = some (.text folder) ∧
      source.field block "PLAY_FOR" = some (.number (durationField playFor))
  | block, .wait time =>
    source.field block "NUMBER" = none ∧ time.Shown source (source.value block "TIME")
  | block, .branch condition whenTrue whenFalse =>
    condition.Shown source (source.value block "CONDITION") ∧
      whenTrue.Shown (source.statement block "TRUE") ∧
      whenFalse.Shown (source.statement block "FALSE")
  | block, .setVariable name value =>
    source.field block "VAR_NAME" = some (.text name) ∧
      value.Shown source (source.value block "VALUE")
  | block, .forever body => body.Shown (source.statement block "DO")
  | block, .repeatLoop times body =>
    times.Shown source (source.value block "TIMES") ∧ body.Shown (source.statement block "DO")
  | block, .whileLoop condition body =>
    condition.Shown source (source.value block "CONDITION") ∧
      body.Shown (source.statement block "DO")
  | _, .breakLoop => True
  | block, .gpio pin level =>
    source.field block "PIN" = some (.number (byteField pin)) ∧
      source.field block "STATE" = some (.text level.name)
  | block, .gpioBranch pin level whenTrue whenFalse =>
    source.field block "PIN" = some (.number (byteField pin)) ∧
      source.field block "STATE" = some (.text level.name) ∧
      whenTrue.Shown (source.statement block "TRUE") ∧
      whenFalse.Shown (source.statement block "FALSE")
  | block, .gpioTrigger pin trigger actions =>
    source.field block "PIN" = some (.number (byteField pin)) ∧
      source.field block "TRIGGER" = some (.text trigger.name) ∧
      actions.Shown (source.statement block "DO")
  | block, .setColor color =>
    source.field block "COLOR" = none ∧ color.Shown source (source.value block "COLOR")
  | block, .value expression => expression.Shown source block

def Chain.Shown : Option β → Chain → Prop
  | head, .nil => head = none
  | head, .link _ statement next =>
    ∃ block, head = some block ∧ source.kind? block = some statement.kind ∧
      statement.Shown block ∧ next.Shown (source.next block)

end

namespace Source

section

variable {source} {block : β} {field : String}

private theorem intOr_of_field {value : Int64}
    (shown : source.field block field = some (.number value)) (default : Int64) :
    source.intOr default block field = value := by
  simp [intOr, int?, shown, FieldValue.toInt?]

private theorem intOr_of_unset (unset : source.field block field = none) (default : Int64) :
    source.intOr default block field = default := by
  simp [intOr, int?, unset]

private theorem ownColor_of_unset (unset : source.field block "COLOR" = none) :
    source.ownColor block = .empty := by
  simp [ownColor, text?, unset]

private theorem textOr_of_field {text : String}
    (shown : source.field block field = some (.text text))
    (default : String) : source.textOr default block field = text := by
  simp [textOr, text?, shown, FieldValue.toText]

private theorem choice_of_field {α : Type} {ofName? : String → Option α} {name : String}
    {chosen : α}
    (shown : source.field block field = some (.text name)) (known : ofName? name = some chosen)
    (default : α) : source.choice ofName? default block field = chosen := by
  simp [choice, text?, shown, FieldValue.toText, known]

private theorem byteUpTo_of_field {value : UInt8} (highest : UInt8)
    (shown : source.field block field = some (.number (byteField value))) :
    source.byteUpTo highest block field = UInt8.ofNat (min value.toNat highest.toNat) := by
  have fits : (byteField value).toInt.toNat = value.toNat := by
    have bound := value.toNat_lt
    rw [byteField, Int64.toInt_ofNat_of_lt (by omega)]
    exact Int.toNat_natCast _
  rw [byteUpTo, intOr_of_field shown, fits]

private theorem channel_of_field {value : UInt8}
    (shown : source.field block field = some (.number (byteField value))) :
    source.byteUpTo 255 block field = value := by
  have small : value.toNat ≤ (255 : UInt8).toNat := Nat.le_of_lt_succ value.toNat_lt
  rw [byteUpTo_of_field 255 shown, Nat.min_eq_left small]
  exact UInt8.ofNat_toNat

private theorem duration_of_field {milliseconds : UInt64}
    (shown : source.field block field = some (.number (durationField milliseconds))) :
    source.duration block field = cutDuration milliseconds := by
  have cut : (durationField milliseconds).toInt.toNat =
      min milliseconds.toNat (signedLimit - 1) := by
    rw [durationField]
    split
    · next small =>
        rw [Int64.toInt_ofNat_of_lt small, Int.toNat_natCast]
        omega
    · next large =>
        have most : Int64.maxValue.toInt.toNat = signedLimit - 1 := by decide
        omega
  simp only [duration, int?, shown, Option.bind_some, FieldValue.toInt?, cut]
  rfl

end

theorem saveInput_succ (depth : Nat) (block : β) :
    source.saveInput (depth + 1) block =
      match (source.kind? block).bind
        (source.saveExpression (source.inputOr .empty depth block) block) with
      | some expression => asInput (source.id block) expression
      | none => .empty := rfl

end Source

private theorem Source.stripIds_asInput (id : Option String) (expression : Expression) :
    (asInput id expression).stripIds = asInput none expression.stripIds := by
  cases expression <;> rfl

private theorem Input.normal_block (id : Option String) (expression : Expression) :
    (Input.block id expression).normal = Source.asInput id expression.normal := by
  cases expression <;> rfl

private theorem Input.asInput_or (id : Option String) (expression : Expression) (default : Input) :
    (Source.asInput id expression).or default = Source.asInput id expression := by
  cases expression <;> rfl

private theorem Input.or_empty (input : Input) : input.or .empty = input := by
  cases input <;> rfl

private theorem Expression.kinds_pos (expression : Expression) : 0 < expression.kinds.length := by
  cases expression <;> simp [kinds]

private theorem Statement.kinds_pos (statement : Statement) : 0 < statement.kinds.length := by
  cases statement <;> simp [kinds, Expression.kinds_pos]

variable {source} {block : β}

/-- In each socket of a block that shows something hangs what is to be there. -/
theorem Expression.Shown.input {expression : Expression} (shown : expression.Shown source block)
    {socket : String × Input} (member : socket ∈ expression.inputs) :
    socket.2.Shown source (source.value block socket.1) := by
  cases expression with
  | compare left relation right =>
      rcases List.mem_cons.mp member with rfl | last
      · exact shown.1
      · rw [List.mem_singleton.mp last]
        exact shown.2.2
  | _ => cases member

theorem Statement.Shown.input {statement : Statement} (shown : statement.Shown source block)
    {socket : String × Input} (member : socket ∈ statement.inputs) :
    socket.2.Shown source (source.value block socket.1) := by
  cases statement with
  | value expression => exact Expression.Shown.input shown member
  | wait | setVariable | setColor =>
      rw [List.mem_singleton.mp member]
      exact shown.2
  | branch | repeatLoop | whileLoop =>
      rw [List.mem_singleton.mp member]
      exact shown.1
  | _ => cases member

theorem Statement.Shown.chain {statement : Statement} (shown : statement.Shown source block)
    {socket : String × Chain} (member : socket ∈ statement.chains) :
    socket.2.Shown source (source.statement block socket.1) := by
  cases statement with
  | start | forever =>
      rw [List.mem_singleton.mp member]
      exact shown
  | repeatLoop | whileLoop =>
      rw [List.mem_singleton.mp member]
      exact shown.2
  | gpioTrigger =>
      rw [List.mem_singleton.mp member]
      exact shown.2.2
  | branch =>
      rcases List.mem_cons.mp member with rfl | last
      · exact shown.2.1
      · rw [List.mem_singleton.mp last]
        exact shown.2.2
  | gpioBranch =>
      rcases List.mem_cons.mp member with rfl | last
      · exact shown.2.2.1
      · rw [List.mem_singleton.mp last]
        exact shown.2.2.2
  | _ => cases member

namespace Source

/-- A value block is saved in its normal form if what is in its sockets is. -/
theorem saveExpression_of_shown {expression : Expression} (shown : expression.Shown source block)
    {inputIn : String → Input}
    (inputs : ∀ socket ∈ expression.inputs,
      (inputIn socket.1).stripIds = socket.2.normal.stripIds) :
    ∃ saved, source.saveExpression inputIn block expression.kind = some saved ∧
      saved.stripIds = expression.normal.stripIds := by
  cases expression with
  | number value =>
      refine ⟨_, rfl, ?_⟩
      rw [intOr_of_field shown]
      rfl
  | randomRange min max =>
      refine ⟨_, rfl, ?_⟩
      rw [intOr_of_field shown.1, intOr_of_field shown.2]
      rfl
  | getVariable name =>
      refine ⟨_, rfl, ?_⟩
      rw [variableName, textOr_of_field shown]
      rfl
  | compare left relation right =>
      refine ⟨_, rfl, ?_⟩
      rw [choice_of_field shown.2.1 relation.ofName?_name, Expression.stripIds,
        inputs _ (.head _), inputs _ (.tail _ (.head _))]
      rfl
  | colorValue color =>
      refine ⟨_, rfl, ?_⟩
      rw [Source.color, textOr_of_field shown]
      rfl
  | customColor color =>
      refine ⟨_, rfl, ?_⟩
      rw [Source.color, textOr_of_field shown]
      rfl
  | rgbColor color =>
      obtain ⟨red, green, blue⟩ := shown
      refine ⟨_, rfl, ?_⟩
      rw [channel_of_field red, channel_of_field green, channel_of_field blue]
      rfl

private theorem inputOr_of_shown (default : Input) {depth : Nat} {socket : String} {input : Input}
    (shown : input.Shown source (source.value block socket)) (deep : input.kinds.length ≤ depth) :
    (source.inputOr default depth block socket).stripIds = (input.normal.or default).stripIds := by
  induction input using Input.socketInduction generalizing depth block socket default with
  | empty =>
      have nothing : source.value block socket = none := shown
      rw [inputOr, nothing]
      rfl
  | number value =>
      obtain ⟨child, held, kind, field⟩ := shown
      obtain ⟨less, rfl⟩ := Nat.exists_eq_add_one.mpr deep
      rw [inputOr, held]
      dsimp only
      rw [saveInput_succ, kind, Option.bind_some, saveExpression, intOr_of_field field]
      rfl
  | text text =>
      obtain ⟨child, held, kind, field⟩ := shown
      obtain ⟨less, rfl⟩ := Nat.exists_eq_add_one.mpr deep
      rw [inputOr, held]
      dsimp only
      rcases kind with preset | custom
      · rw [saveInput_succ, preset, Option.bind_some, saveExpression, color, textOr_of_field field]
        rfl
      · rw [saveInput_succ, custom, Option.bind_some, saveExpression, color, textOr_of_field field]
        rfl
  | block id expression inductionHypothesis =>
      obtain ⟨child, held, kind, inside⟩ := shown
      obtain ⟨less, rfl⟩ := Nat.exists_eq_add_one.mpr (Nat.lt_of_lt_of_le expression.kinds_pos deep)
      have inputs (inner : String × Input) (member : inner ∈ expression.inputs) :
          (source.inputOr .empty less child inner.1).stripIds = inner.2.normal.stripIds := by
        have innerDeep := Nat.lt_of_lt_of_le (Expression.length_kinds_lt member) deep
        rw [inductionHypothesis inner.1 inner.2 member .empty (inside.input member)
          (Nat.le_of_lt_succ innerDeep), Input.or_empty]
      obtain ⟨saved, found, same⟩ := saveExpression_of_shown inside inputs
      simp only [inputOr, held, saveInput_succ, kind, Option.bind_some, found]
      rw [stripIds_asInput, same, Input.normal_block, Input.asInput_or, stripIds_asInput]

variable (source)

private theorem saveFields_value (depth : Nat) (block : β) (chainIn : String → Chain)
    (expression : Expression) :
    source.saveFields depth block chainIn expression.kind =
      (source.saveExpression (source.inputOr .empty depth block) block expression.kind).map
        .value := by
  cases expression <;> rfl

theorem saveChain_succ (depth : Nat) (block : β) :
    source.saveChain (depth + 1) (some block) =
      match (source.kind? block).bind (source.saveFields depth block fun socket =>
        source.saveChain depth (source.statement block socket)) with
      | some statement =>
        .link (source.id block) statement (source.saveChain depth (source.next block))
      | none => source.saveChain depth (source.next block) := rfl

variable {source}

/-- A statement is saved in its normal form, with numbers cut to the range of their fields, if what
is in its sockets is. -/
theorem saveFields_cut_of_shown {depth : Nat} {statement : Statement}
    (shown : statement.Shown source block) (chainIn : String → Chain)
    (inputs : ∀ socket ∈ statement.inputs, ∀ default,
      (source.inputOr default depth block socket.1).stripIds =
        (socket.2.normal.or default).stripIds)
    (chains : ∀ socket ∈ statement.chains,
      (chainIn socket.1).stripIds = socket.2.cut.normal.stripIds) :
    ∃ saved, source.saveFields depth block chainIn statement.kind = some saved ∧
      saved.stripIds = statement.cut.normal.stripIds := by
  have plain (socket : String × Input) (member : socket ∈ statement.inputs) :
      (source.inputOr .empty depth block socket.1).stripIds = socket.2.normal.stripIds := by
    rw [inputs socket member .empty, Input.or_empty]
  cases statement with
  | start actions =>
      refine ⟨_, rfl, ?_⟩
      rw [Statement.stripIds, chains _ (.head _)]
      rfl
  | displayImage filename =>
      refine ⟨_, rfl, ?_⟩
      rw [textOr_of_field shown]
      rfl
  | playAnimation folder playFor =>
      refine ⟨_, rfl, ?_⟩
      rw [textOr_of_field shown.1, duration_of_field shown.2]
      rfl
  | wait time =>
      refine ⟨_, rfl, ?_⟩
      rw [intOr_of_unset shown.1, Statement.stripIds, inputs _ (.head _)]
      rfl
  | branch condition whenTrue whenFalse =>
      refine ⟨_, rfl, ?_⟩
      rw [Statement.stripIds, plain _ (.head _), chains _ (.head _), chains _ (.tail _ (.head _))]
      rfl
  | setVariable name value =>
      refine ⟨_, rfl, ?_⟩
      rw [variableName, textOr_of_field shown.1, Statement.stripIds, plain _ (.head _)]
      rfl
  | forever body =>
      refine ⟨_, rfl, ?_⟩
      rw [Statement.stripIds, chains _ (.head _)]
      rfl
  | repeatLoop times body =>
      refine ⟨_, rfl, ?_⟩
      rw [Statement.stripIds, inputs _ (.head _), chains _ (.head _)]
      rfl
  | whileLoop condition body =>
      refine ⟨_, rfl, ?_⟩
      rw [Statement.stripIds, plain _ (.head _), chains _ (.head _)]
      rfl
  | breakLoop => exact ⟨_, rfl, rfl⟩
  | gpio pin level =>
      refine ⟨_, rfl, ?_⟩
      rw [Source.pin, byteUpTo_of_field maxPin shown.1, Source.level,
        choice_of_field shown.2 level.ofName?_name]
      rfl
  | gpioBranch pin level whenTrue whenFalse =>
      refine ⟨_, rfl, ?_⟩
      rw [Source.pin, byteUpTo_of_field maxPin shown.1, Source.level,
        choice_of_field shown.2.1 level.ofName?_name, Statement.stripIds, chains _ (.head _),
        chains _ (.tail _ (.head _))]
      rfl
  | gpioTrigger pin trigger actions =>
      refine ⟨_, rfl, ?_⟩
      rw [Source.pin, byteUpTo_of_field maxPin shown.1,
        choice_of_field shown.2.1 trigger.ofName?_name, Statement.stripIds, chains _ (.head _)]
      rfl
  | setColor color =>
      refine ⟨_, rfl, ?_⟩
      rw [ownColor_of_unset shown.1, Statement.stripIds, plain _ (.head _)]
      rfl
  | value expression =>
      obtain ⟨saved, found, same⟩ := saveExpression_of_shown shown plain
      refine ⟨.value saved, ?_, ?_⟩
      · show source.saveFields depth block _ expression.kind = _
        rw [saveFields_value, found]
        rfl
      · rw [Statement.stripIds, same]
        rfl

variable (source)

theorem saveChain_cut_of_shown {depth : Nat} {head : Option β} (chain : Chain)
    (shown : chain.Shown source head) (deep : chain.kinds.length ≤ depth) :
    (source.saveChain depth head).stripIds = chain.cut.normal.stripIds := by
  induction chain using Chain.socketInduction generalizing depth head with
  | nil =>
      cases shown
      cases depth <;> rfl
  | link id statement next inside after =>
      obtain ⟨block, rfl, kind, shownHere, follows⟩ := shown
      have positive := statement.kinds_pos
      rw [Chain.kinds, List.length_append] at deep
      obtain ⟨less, rfl⟩ := Nat.exists_eq_add_one.mpr (by omega : 0 < depth)
      have inputs (socket : String × Input) (member : socket ∈ statement.inputs)
          (default : Input) : (source.inputOr default less block socket.1).stripIds =
            (socket.2.normal.or default).stripIds := by
        have shorter := Statement.length_kinds_lt_of_input member
        exact inputOr_of_shown default (shownHere.input member) (by omega)
      have chains (socket : String × Chain) (member : socket ∈ statement.chains) :
          (source.saveChain less (source.statement block socket.1)).stripIds =
            socket.2.cut.normal.stripIds := by
        have shorter := Statement.length_kinds_lt_of_chain member
        exact inside socket.2 (Statement.mem_slots_of_chains member) (shownHere.chain member)
          (by omega)
      obtain ⟨saved, found, same⟩ := saveFields_cut_of_shown shownHere
        (fun socket => source.saveChain less (source.statement block socket)) inputs chains
      have rest := after follows (by omega : next.kinds.length ≤ less)
      rw [saveChain_succ, kind, Option.bind_some, found]
      dsimp only
      rw [Chain.stripIds, same, rest]
      rfl

theorem saveChain_of_shown {depth : Nat} {head : Option β} (chain : Chain)
    (shown : chain.Shown source head) (inRange : chain.InRange)
    (deep : chain.kinds.length ≤ depth) :
    (source.saveChain depth head).stripIds = chain.normal.stripIds := by
  rw [source.saveChain_cut_of_shown chain shown deep, chain.cut_of_inRange inRange]

end Source

end

end Marquee
