import Marquee.Proofs.Color.Spelling
import Marquee.Proofs.Panel.Screen
import Marquee.Proofs.Run.Assignments

/-!
# Colors that a program computes

A color is read back from each of its spellings, whatever blanks stand around it. So a color block
gives the panel its color, whether it stands in the statement that sets the color, where its
channels are listed, or was assigned to a variable before, which holds it as a hexadecimal number.
-/

namespace Marquee

open Text

namespace Color

/-- A channel is read from its two digits, each of either case. -/
theorem hexChannel_of_digits (channel : UInt8) {high low : Char}
    (first : high = hexDigit (channel.toNat / 16) ∨ high = hexDigitUpper (channel.toNat / 16))
    (second : low = hexDigit (channel.toNat % 16) ∨ low = hexDigitUpper (channel.toNat % 16)) :
    HexChannel true [high, low] channel := by
  have sixteens : channel.toNat / 16 < 16 := Nat.div_lt_of_lt_mul channel.toNat_lt
  have units : channel.toNat % 16 < 16 := Nat.mod_lt _ (by decide)
  exact .digits ⟨sixteens, first⟩ ⟨units, second⟩ (Nat.div_add_mod _ _).symm

/-- A channel is read after blanks. -/
theorem decimalChannel_channelText {blanks : List Char} (blank : ∀ c ∈ blanks, isBlank c = true)
    (channel : UInt8) : DecimalChannel true (blanks ++ channelText channel) channel :=
  ⟨_, ⟨blanks, [], (List.append_nil _).symm, blank, List.forall_mem_nil _⟩,
    .digits (numeral_toDigits channel.toNat)⟩

variable (color : Color)

private theorem spells_hex : Spells true color.hex.toList color := by
  have lower (channel : UInt8) : HexChannel true (hexPair channel) channel :=
    hexChannel_of_digits channel (.inl rfl) (.inl rfl)
  rw [hex, String.toList_ofList, List.append_assoc]
  exact .hex (.inr rfl) (lower _) (lower _) (lower _)

private theorem spells_hexUpper : Spells true color.hexUpper.toList color := by
  have upper (channel : UInt8) : HexChannel true (hexPairUpper channel) channel :=
    hexChannel_of_digits channel (.inr rfl) (.inr rfl)
  rw [hexUpper, String.toList_ofList, List.append_assoc]
  exact .hex (.inr rfl) (upper _) (upper _) (upper _)

private theorem spells_channels : Spells true color.channels.toList color := by
  have space : ∀ c ∈ [' '], isBlank c = true := List.forall_mem_singleton.mpr rfl
  have written : color.channels.toList = 'r' :: 'g' :: 'b' :: '(' ::
      (([] ++ channelText color.red) ++ ',' :: (([' '] ++ channelText color.green) ++
        ',' :: ([' '] ++ channelText color.blue)) ++ [')']) := by
    simp [channels]
  rw [written]
  exact .list (decimalChannel_channelText (List.forall_mem_nil _) _)
    (decimalChannel_channelText space _) (decimalChannel_channelText space _)

/-- The texts that a color is written as. -/
def writings : List String :=
  [color.channels, color.hex, color.hexUpper]

variable {color}

private theorem parse?_of_padded {written padded : String} (member : written ∈ color.writings)
    (blanks : Padded written.toList padded.toList) : parse? padded = some color := by
  rw [parse?_eq_some_iff]
  refine ⟨written.toList, blanks, ?_⟩
  simp only [writings, List.mem_cons, List.not_mem_nil, or_false] at member
  rcases member with rfl | rfl | rfl
  · exact color.spells_channels
  · exact color.spells_hex
  · exact color.spells_hexUpper

private theorem parse?_of_mem {written : String} (member : written ∈ color.writings) :
    parse? written = some color :=
  parse?_of_padded member
    ⟨[], [], by simp, List.forall_mem_nil _, List.forall_mem_nil _⟩

/-- What is read as a color is neither empty nor the word for a random one. -/
theorem ne_of_read {text : String} (read : parse? text = some color) :
    text ≠ "" ∧ text ≠ randomColor := by
  constructor
  · rintro rfl
    cases read
  · rintro rfl
    cases read

private theorem parse_of_read {text : String} (read : parse? text = some color) :
    parse text = color := by
  rw [parse, read, Option.getD_some]

end Color

private theorem SimulatedPanel.color_take_of_read (panel : SimulatedPanel) {text : String}
    {color : Color}
    (read : Color.parse? text = some color) : (panel.take (.color text)).display.color = color := by
  rw [color_take, PanelCall.color?, Option.getD_some, Color.parse_of_read read]

namespace Machine

/-- The next step begins with the statement, and the variables are as before. -/
theorem exists_execute_of_begins? {scene : Scene} {machine : Machine} {execution : Execution}
    (begins : machine.begins? scene = some execution) :
    ∃ entered : Machine, entered.store = machine.store ∧
      machine.step scene = some (entered.execute scene execution.statement) := by
  obtain ⟨tasks, store, dice, executed⟩ := machine
  rw [begins?] at begins
  split at begins
  · next id statement next rest stack =>
      cases stack
      split at begins
      · cases begins
      · next running =>
          cases begins
          refine ⟨⟨.chain next :: rest, store, dice, executed + 1⟩, rfl, ?_⟩
          dsimp only [step]
          rw [perform, if_neg running]
          rfl
  · cases begins

private theorem exists_setColor (scene : Scene) {machine : Machine} {input : Input} {text : String}
    {color : Color} (shown : (machine.colorText input).1 = some text)
    (read : Color.parse? text = some color) :
    ∃ after, machine.setColor scene input = (.call (.color text), after) := by
  rw [setColor]
  generalize machine.colorText input = answer at shown
  obtain ⟨_, after⟩ := answer
  cases shown
  exact ⟨after, if_neg (Color.ne_of_read read).2⟩

/-- A variable that holds a text which is not empty gives it as the text of the color. -/
theorem colorText_getVariable {machine : Machine} {name text : String} (id : Option String)
    (held : machine.store.values.get? name = some (.text text)) (some : text ≠ "") :
    (machine.colorText (.block id (.getVariable name))).1 = .some text := by
  have got : machine.store.get name = .text text := by
    rw [Variables.get, held]
    exact if_pos (by simpa [Value.isTruthy] using some)
  exact congrArg (fun value => Option.some value.shown) got

end Machine

namespace Preview

/-- The panel after it took all calls of the preview. -/
def drawnOn (preview : Preview) (panel : SimulatedPanel) : SimulatedPanel :=
  panel.takeAll (preview.calls.toList.map Prod.snd)

private theorem drawnOn_call (preview : Preview) (panelCall : PanelCall) (panel : SimulatedPanel) :
    (preview.call panelCall).drawnOn panel = (preview.drawnOn panel).take panelCall := by
  rw [drawnOn, calls_call, Array.toList_push, List.map_append, SimulatedPanel.takeAll_append]
  rfl

/-- The run sets a color from an input that gives a text, and the panel has the color that is read
from it. -/
theorem color_of_begins? {preview : Preview} {number : Nat} {execution : Execution} {input : Input}
    {text : String} {color : Color} (begins : preview.begins? number = some execution)
    (sets : execution.statement = .setColor input)
    (shown : ∀ machine : Machine, machine.store = preview.storeOf number →
      (machine.colorText input).1 = some text)
    (read : Color.parse? text = some color) (panel : SimulatedPanel) :
    ((preview.step number).1.drawnOn panel).display.color = color := by
  obtain ⟨run, found, taken⟩ := Option.bind_eq_some_iff.mp begins
  split at taken
  · next ready =>
      obtain ⟨entered, store, takes⟩ := Machine.exists_execute_of_begins? taken
      obtain ⟨after, asked⟩ := Machine.exists_setColor (preview.scene run)
        (shown entered (store.trans (storeOf_of_found found).symm)) read
      rw [sets, Machine.execute, asked] at takes
      rw [step_of_request found ready takes, grant, drawnOn_call]
      exact SimulatedPanel.color_take_of_read _ read
  · cases taken

end Preview

/-- The last of the statements that sets the variable sets it from this input. -/
def SetLast (name : String) (input : Input) (begun : List Execution) : Prop :=
  ∃ before execution after, begun = before ++ execution :: after ∧
    execution.statement = .setVariable name input ∧
    ∀ later ∈ after, ∀ other, later.statement ≠ .setVariable name other

theorem SetLast.exists_assigned {name : String} {input : Input} {begun : List Execution}
    (last : SetLast name input begun) :
    ∃ machine : Machine, lastAssigned? name begun = some (machine.evaluate input).1 := by
  obtain ⟨before, execution, after, rfl, sets, unset⟩ := last
  have nothing : lastAssigned? name after = none := by
    rw [lastAssigned?, List.getLast?_eq_none_iff, List.filterMap_eq_nil_iff]
    intro later member
    rw [Execution.assigned?]
    split
    · next other input assigns =>
        refine if_neg ?_
        rintro rfl
        exact unset later member input assigns
    · rfl
  refine ⟨execution.machine, ?_⟩
  rw [← List.singleton_append, lastAssigned?_append, lastAssigned?_append, nothing,
    Option.none_or, lastAssigned?_singleton, Execution.assigned?, sets]
  dsimp only
  rw [if_pos rfl, Option.some_or]

/-- A color that a program computes is the color that the panel shows. The panel reads each of its
spellings as this color, whatever blanks stand around it. Setting the color from a color block, in
any preview, and from a variable that was last set from such a block, whatever happened so far,
leaves the panel with this color. -/
theorem Preview.color_shown (color : Color) :
    (∀ written ∈ color.writings, ∀ padded : String, Padded written.toList padded.toList →
      Color.parse? padded = some color ∧
        ∀ panel : SimulatedPanel, (panel.take (.color padded)).display.color = color) ∧
    (∀ (panel : SimulatedPanel) (preview : Preview) (number : Nat) (execution : Execution)
      (id : Option String), preview.begins? number = some execution →
      execution.statement = .setColor (.block id (.rgbColor color)) →
      ((preview.step number).1.drawnOn panel).display.color = color) ∧
    ∀ (panel : SimulatedPanel) (settings : PreviewSettings) (pins : PinBank) (acts : List Act)
      (number : Nat) (execution : Execution) (id source : Option String) (name : String),
      let origin := start settings pins
      let preview := origin.follow acts
      preview.begins? number = some execution →
      execution.statement = .setColor (.block id (.getVariable name)) →
      SetLast name (.block source (.rgbColor color))
        (executions number (moments acts origin) origin) →
      ((preview.step number).1.drawnOn panel).display.color = color := by
  have list : color.channels ∈ color.writings := List.mem_cons_self
  have digits : color.hex ∈ color.writings := List.mem_cons_of_mem _ List.mem_cons_self
  refine ⟨fun written member padded blanks => ?_, ?_, ?_⟩
  · have read := Color.parse?_of_padded member blanks
    exact ⟨read, fun panel => panel.color_take_of_read read⟩
  · intro panel preview number execution id begins sets
    exact color_of_begins? begins sets (fun _ _ => rfl) (Color.parse?_of_mem list) panel
  · intro panel settings pins acts number execution id source name origin preview begins sets
      last
    have read := Color.parse?_of_mem digits
    obtain ⟨machine, assigned⟩ := last.exists_assigned
    have held : (preview.storeOf number).values.get? name = some (.text color.hex) :=
      (get?_storeOf settings pins acts number name).trans assigned
    refine color_of_begins? begins sets (fun entered same => ?_) read panel
    rw [← same] at held
    exact Machine.colorText_getVariable id held (Color.ne_of_read read).1

/-- Sets a variable to a color and shows the variable. -/
def tinting : Program :=
  .ofActions <|
    .link none (.setVariable "tint" (.block none (.rgbColor ⟨1, 2, 255⟩))) <|
    .link none (.setColor (.block none (.getVariable "tint"))) .nil

/-- The color is read between blanks, and shown through the variable. -/
theorem color_shown_tinting :
    let preview := (Preview.start default .low).follow [.run tinting, .step 0]
    Color.parse? "\u3000rgb(1, 2, 255)\t" = some ⟨1, 2, 255⟩ ∧
      ((preview.step 0).1.drawnOn (.new .empty)).display.color = ⟨1, 2, 255⟩ := by
  intro preview
  obtain ⟨read, -, held⟩ := Preview.color_shown ⟨1, 2, 255⟩
  refine ⟨(read "rgb(1, 2, 255)" (by decide) _ ⟨['\u3000'], ['\t'], ?_⟩).1, ?_⟩
  · exact ⟨rfl, List.forall_mem_singleton.mpr rfl, List.forall_mem_singleton.mpr rfl⟩
  · exact held _ default .low [.run tinting, .step 0] 0 _ none none "tint" rfl rfl
      ⟨[], _, [], rfl, rfl, List.forall_mem_nil _⟩

end Marquee
