import Marquee.Proofs.Run.Course
import Marquee.Proofs.Run.Isolation
import Marquee.Proofs.Run.Starts

/-!
# Pins and what is shown of them

A run sets a pin and then shows it, as two things done one after the other. Pins are also set and
toggled from outside, at any time, and set during any call of the panel. The changes are written
down in the order in which they happen: those that the calls show, and those from outside. The bank
is what these make of it, and nothing else ever changes a pin.
-/

namespace Marquee

inductive PinChange where
  /-- The panel was told of the pin. -/
  | shown (pin : UInt8) (high : Bool)
  /-- The pin was set from outside. -/
  | set (pin : UInt8) (high : Bool)
  /-- The pin was toggled from outside. -/
  | toggle (pin : UInt8)
  deriving DecidableEq, Repr

def PinBank.change (bank : PinBank) : PinChange → PinBank
  | .shown pin high => bank.set pin high
  | .set pin high => bank.set pin high
  | .toggle pin => bank.toggle pin

/-- The bank after all these changes, one after the other. -/
def PinBank.changeAll (bank : PinBank) (changes : List PinChange) : PinBank :=
  changes.foldl change bank

theorem PinBank.changeAll_append (bank : PinBank) (first second : List PinChange) :
    bank.changeAll (first ++ second) = (bank.changeAll first).changeAll second :=
  List.foldl_append

def PanelCall.pinChanges : PanelCall → List PinChange
  | .indicator pin high => [.shown pin high]
  | _ => []

def Reaction.pinChanges : Reaction → List PinChange
  | .setPin pin high => [.set pin high]
  | .stop => []

def Act.pinChanges : Act → List PinChange
  | .setPin pin high => [.set pin high]
  | .togglePin pin => [.toggle pin]
  | _ => []

/-- The changes that come with calls of the panel: each call shows what it shows, and then there is
what happens outside during it. So many calls were made before. -/
def PreviewSettings.pinChanges (settings : PreviewSettings) : Nat → List PanelCall → List PinChange
  | _, [] => []
  | made, call :: calls =>
    call.pinChanges ++ (settings.reactions (made + 1)).flatMap Reaction.pinChanges ++
      settings.pinChanges (made + 1) calls

theorem PreviewSettings.pinChanges_append (settings : PreviewSettings) (made : Nat)
    (first second : List PanelCall) :
    settings.pinChanges made (first ++ second) =
      settings.pinChanges made first ++ settings.pinChanges (made + first.length) second := by
  induction first generalizing made with
  | nil => rfl
  | cons call first inductionHypothesis =>
      have count : made + 1 + first.length = made + (first.length + 1) := by omega
      rw [List.cons_append, pinChanges, pinChanges, inductionHypothesis, List.length_cons, count,
        List.append_assoc _ (settings.pinChanges _ first)]

/-- A request that shows a pin only as one that it sets, and sets none out of range. -/
def Request.IsSound : Request → Prop
  | .call (.indicator _ _) => False
  | .drive pin _ => pin ≤ maxPin
  | _ => True

namespace Machine

private theorem isSound_setColor (scene : Scene) (machine : Machine) (input : Input) :
    (machine.setColor scene input).1.IsSound := by
  rw [setColor]
  split
  · trivial
  · split
    · split <;> trivial
    · trivial

private theorem isSound_execute (scene : Scene) (machine : Machine) (statement : Statement) :
    (machine.execute scene statement).1.IsSound := by
  cases statement with
  | setColor color => exact machine.isSound_setColor scene color
  | gpio pin level =>
      rw [execute]
      split
      · trivial
      · next inRange => exact UInt8.not_lt.mp inRange
  | playAnimation folder playFor =>
      rw [execute]
      split <;> trivial
  | _ => trivial

private theorem isSound_perform (scene : Scene) (machine : Machine) (task : Task) :
    (machine.perform scene task).1.IsSound := by
  cases task with
  | chain statements =>
      cases statements with
      | nil => trivial
      | link id statement next =>
          rw [perform]
          split
          · trivial
          · apply isSound_execute
  | times left body =>
      cases left with
      | zero => trivial
      | succ left =>
          rw [perform]
          split <;> trivial
  | whileHolds condition body =>
      rw [perform]
      split
      · trivial
      · dsimp only
        split <;> trivial
  | yield => trivial
  | rest milliseconds =>
      rw [perform]
      split <;> trivial
  | forever body =>
      rw [perform]
      split <;> trivial
  | animation animation =>
      rw [perform]
      split <;> trivial

private theorem isSound_of_step {scene : Scene} {machine next : Machine} {request : Request}
    (takes : machine.step scene = some (request, next)) : request.IsSound := by
  rw [step] at takes
  split at takes
  · cases takes
  · next task rest _ =>
      have sound := isSound_perform scene { machine with tasks := rest } task
      rw [Option.some.inj takes] at sound
      exact sound

end Machine

namespace Preview

/-- The state of the preview in which a call of the panel is made. A pin that the call shows was set
just before. -/
structure Calling (before moment : Preview) (call : PanelCall) : Prop where
  settings : moment.settings = before.settings
  calls : moment.calls = before.calls
  now : moment.now = before.now
  pins : moment.pins = before.pins.changeAll call.pinChanges
  shown : ∀ pin high, call = .indicator pin high →
    pin.toNat ≤ 40 ∧ moment.pins.isHigh pin = high

private theorem isHigh_set_of_le {pin : UInt8} (inRange : pin ≤ maxPin) (bank : PinBank)
    (high : Bool) :
    (bank.set pin high).isHigh pin = high := by
  have has : PinBank.has pin := by
    rw [PinBank.has, decide_eq_true_iff]
    exact Nat.lt_succ_of_le (UInt8.le_iff_toNat_le.mp inRange)
  rw [PinBank.isHigh_set, if_pos ⟨rfl, has⟩]

/-- A sound request calls the panel once, as the last thing that is done, or neither calls it nor
changes a pin. -/
theorem exists_calling_of_grant {request : Request} (sound : request.IsSound) (preview : Preview)
    (number : Nat) :
    ((preview.grant number request).1.calls = preview.calls ∧
      (preview.grant number request).1.pins = preview.pins) ∨
      ∃ moment call, Calling preview moment call ∧
        (preview.grant number request).1 = moment.call call := by
  cases request with
  | nothing => exact .inl ⟨rfl, rfl⟩
  | rest milliseconds => exact .inl ⟨rfl, rfl⟩
  | yield => exact .inl ⟨rfl, rfl⟩
  | drive pin high =>
      right
      refine ⟨preview.setPin pin high, .indicator pin high, ⟨rfl, rfl, rfl, rfl, ?_⟩, rfl⟩
      rintro _ _ ⟨rfl, rfl⟩
      exact ⟨UInt8.le_iff_toNat_le.mp sound, isHigh_set_of_le sound _ high⟩
  | call panelCall =>
      right
      refine ⟨preview, panelCall, ⟨rfl, rfl, rfl, ?_, ?_⟩, rfl⟩
      · cases panelCall with
        | indicator pin high => exact sound.elim
        | _ => rfl
      · rintro pin high rfl
        exact sound.elim

/-- So does a step. -/
theorem exists_calling (preview : Preview) (number : Nat) :
    ((preview.step number).1.calls = preview.calls ∧ (preview.step number).1.pins = preview.pins) ∨
      ∃ moment call, Calling preview moment call ∧ (preview.step number).1 = moment.call call := by
  cases found : preview.runs[number]? with
  | none =>
      rw [step_of_none found]
      exact .inl ⟨rfl, rfl⟩
  | some run =>
      by_cases ready : run.isReady preview.now
      · cases takes : run.machine.step (preview.scene run) with
        | none =>
            rw [step_of_end found ready takes]
            exact .inl ⟨rfl, rfl⟩
        | some taken =>
            obtain ⟨request, machine⟩ := taken
            rw [step_of_request found ready takes]
            rcases exists_calling_of_grant (Machine.isSound_of_step takes)
                (preview.modifyRun number fun run => { run with machine, wakesAt := none }) number
              with unchanged | ⟨moment, call, calling, same⟩
            · exact .inl unchanged
            · -- Letting the run go on has changed nothing that a call depends on.
              exact .inr ⟨moment, call, ⟨calling.settings, calling.calls, calling.now, calling.pins,
                calling.shown⟩, same⟩
      · rw [step_of_unready found ready]
        exact .inl ⟨rfl, rfl⟩

/-! ## The bank since some moment -/

private theorem pins_foldl_react (preview : Preview) (reactions : List Reaction) :
    (reactions.foldl react preview).pins =
      preview.pins.changeAll (reactions.flatMap Reaction.pinChanges) := by
  induction reactions generalizing preview with
  | nil => rfl
  | cons reaction reactions inductionHypothesis =>
      have reacted : (preview.react reaction).pins =
          preview.pins.changeAll reaction.pinChanges := by
        cases reaction with
        | setPin pin high => rfl
        | stop =>
            rw [react, stop]
            split <;> rfl
      rw [List.foldl_cons, inductionHypothesis, reacted, List.flatMap_cons,
        PinBank.changeAll_append]

private theorem pins_call (preview : Preview) (call : PanelCall) :
    (preview.call call).pins = preview.pins.changeAll
      ((preview.settings.reactions (preview.calls.size + 1)).flatMap Reaction.pinChanges) := by
  rw [call_eq, pins_foldl_react]
  rfl

/-- Since this moment pins have changed only with calls of the panel. -/
def Since (before after : Preview) : Prop :=
  after.settings = before.settings ∧ ∃ new : List (Nat × PanelCall),
    after.calls.toList = before.calls.toList ++ new ∧
      after.pins = before.pins.changeAll
        (before.settings.pinChanges before.calls.size (new.map Prod.snd))

namespace Since

variable {before moment after : Preview}

theorem of_same (settings : after.settings = before.settings) (calls : after.calls = before.calls)
    (pins : after.pins = before.pins) : Since before after := by
  refine ⟨settings, [], ?_, pins⟩
  rw [calls, List.append_nil]

theorem trans (since : Since before moment) (onward : Since moment after) : Since before after := by
  obtain ⟨settings, new, calls, pins⟩ := since
  obtain ⟨laterSettings, more, laterCalls, laterPins⟩ := onward
  refine ⟨laterSettings.trans settings, new ++ more, ?_, ?_⟩
  · rw [laterCalls, calls, List.append_assoc]
  · have count : moment.calls.size = before.calls.size + (new.map Prod.snd).length := by
      rw [← Array.length_toList, calls, List.length_append, List.length_map, Array.length_toList]
    rw [laterPins, pins, settings, count, List.map_append, PreviewSettings.pinChanges_append,
      PinBank.changeAll_append]

theorem of_call {call : PanelCall} (calling : Calling before moment call) :
    Since before (moment.call call) := by
  refine ⟨?_, [(moment.now, call)], ?_, ?_⟩
  · rw [← calling.settings]
    exact ((lasts_settings moment.settings).withstands 0).call call rfl
  · rw [calls_call, Array.toList_push, calling.calls]
  · rw [pins_call, calling.pins, calling.settings, calling.calls, ← PinBank.changeAll_append,
      List.map_singleton, PreviewSettings.pinChanges, PreviewSettings.pinChanges, List.append_nil]

theorem step (preview : Preview) (number : Nat) : Since preview (preview.step number).1 := by
  have settings : (preview.step number).1.settings = preview.settings :=
    ((lasts_settings preview.settings).withstands number).step rfl
  rcases preview.exists_calling number with ⟨calls, pins⟩ | ⟨moment, call, calling, same⟩
  · exact of_same settings calls pins
  · rw [same]
    exact of_call calling

theorem keeps (before : Preview) : Keeps (Since before) :=
  ⟨⟨fun number since => since.trans (step _ number)⟩,
    fun _ since => since.trans (of_same rfl rfl rfl)⟩

theorem stop (preview : Preview) : Since preview preview.stop := by
  rw [Preview.stop]
  split <;> exact of_same rfl rfl rfl

/-- A start calls the panel twice, and shows no pin. -/
theorem install (preview : Preview) (statements : Chain) :
    Since preview (preview.install statements) := by
  have silent (preview : Preview) (call : PanelCall) (none : call.pinChanges = []) :
      Calling preview preview call := by
    refine ⟨rfl, rfl, rfl, ?_, ?_⟩
    · rw [none]
      rfl
    · rintro pin high rfl
      cases none
  have colored := of_call (silent preview (.color preview.settings.color) rfl)
  have cleared := of_call (silent (preview.call (.color preview.settings.color)) .clear rfl)
  exact (colored.trans cleared).trans (of_same rfl rfl rfl)

/-- Whatever happens, pins change with the calls that are made then, and as the act says. -/
theorem act (preview : Preview) (act : Act) :
    Since { preview with pins := preview.pins.changeAll act.pinChanges } (preview.act act) := by
  cases act with
  | step number => exact step preview number
  | moveTo instant => exact of_same rfl rfl rfl
  | sleep milliseconds => exact (keeps preview).sleep milliseconds (of_same rfl rfl rfl)
  | finish number => exact (keeps preview).finish number (of_same rfl rfl rfl)
  | run program =>
      rw [Preview.act, Preview.run]
      split
      · exact ((keeps preview).sleep _ (stop preview)).trans (install _ program.actions)
      · exact install preview program.actions
  | setPin pin high => exact of_same rfl rfl rfl
  | togglePin pin => exact of_same rfl rfl rfl
  | stop => exact stop preview
  | stopRun number => exact of_same rfl rfl rfl

end Since

/-- The calls of the panel that were made since then. -/
def callsSince (before after : Preview) : List PanelCall :=
  (after.calls.toList.drop before.calls.size).map Prod.snd

theorem Since.pins {before after : Preview} (since : Since before after) :
    after.pins = before.pins.changeAll
      (before.settings.pinChanges before.calls.size (callsSince before after)) := by
  obtain ⟨_, new, calls, pins⟩ := since
  rw [pins, callsSince, calls, ← Array.length_toList, List.drop_left]

/-- All changes of pins, in the order in which they happen. -/
def ledger : List Act → Preview → List PinChange
  | [], _ => []
  | act :: acts, preview =>
    act.pinChanges ++
      preview.settings.pinChanges preview.calls.size (callsSince preview (preview.act act)) ++
        ledger acts (preview.act act)

/-- The bank is what all changes make of it. -/
theorem pins_follow (preview : Preview) (acts : List Act) :
    (preview.follow acts).pins = preview.pins.changeAll (ledger acts preview) := by
  induction acts generalizing preview with
  | nil => rfl
  | cons act acts inductionHypothesis =>
      rw [follow_cons, inductionHypothesis, (Since.act preview act).pins, ledger,
        PinBank.changeAll_append, PinBank.changeAll_append]
      rfl

end Preview

namespace Stage

def pinChanges : Move → List PinChange
  | .act act _ => act.pinChanges
  | _ => []

/-- All changes of pins while starts may be under way, in the order in which they happen. -/
def ledger : List Move → Stage → List PinChange
  | [], _ => []
  | move :: moves, stage =>
    pinChanges move ++
      stage.preview.settings.pinChanges stage.preview.calls.size
        (Preview.callsSince stage.preview (stage.move move).preview) ++
          ledger moves (stage.move move)

/-- Neither the beginning of a start nor its end changes a pin. -/
theorem since_move (stage : Stage) (move : Move) :
    Preview.Since
      { stage.preview with pins := stage.preview.pins.changeAll (pinChanges move) }
      (stage.move move).preview := by
  cases move with
  | act act noRun => exact Preview.Since.act stage.preview act
  | enter program =>
      rw [Stage.move]
      split
      · exact Preview.Since.stop stage.preview
      · exact Preview.Since.install stage.preview program.actions
  | resume index =>
      rw [Stage.move]
      split
      · exact .of_same rfl rfl rfl
      · split
        · exact Preview.Since.install stage.preview _
        · exact .of_same rfl rfl rfl

private theorem pins_follow (stage : Stage) (moves : List Move) :
    (stage.follow moves).preview.pins = stage.preview.pins.changeAll (ledger moves stage) := by
  induction moves generalizing stage with
  | nil => rfl
  | cons move moves inductionHypothesis =>
      have moved : stage.follow (move :: moves) = (stage.move move).follow moves := rfl
      rw [moved, inductionHypothesis, (stage.since_move move).pins, ledger,
        PinBank.changeAll_append, PinBank.changeAll_append]
      rfl

end Stage

namespace Preview

/-! ## Where the indicators are called -/

private theorem pins_settled {preview : Preview} (oneLive : preview.OneLive) :
    preview.settled.pins = preview.pins := by
  rw [settled]
  split
  · obtain ⟨_, _, pins⟩ := (keeps_still preview.calls preview.stop.pins).sleep
      preview.settings.settle ⟨oneLive.calm_stop, calls_stop preview, rfl⟩
    rw [pins, stop]
    split <;> rfl
  · rfl

/-- The panel is told of a pin in a step only, and that is the last thing that the step does. -/
theorem exists_step_of_act {preview : Preview} (oneLive : preview.OneLive) {act : Act}
    (atomic : act.IsMoment) {index time : Nat} {pin : UInt8} {high : Bool}
    (later : preview.calls.size ≤ index)
    (made : (preview.act act).calls[index]? = some (time, .indicator pin high)) :
    ∃ number moment, act = .step number ∧ Calling preview moment (.indicator pin high) ∧
      (preview.step number).1 = moment.call (.indicator pin high) ∧
      moment.calls.size = index ∧ moment.now = time := by
  have silent (same : (preview.act act).calls = preview.calls) : False := by
    rw [same] at made
    exact Nat.not_lt.mpr later (Array.getElem?_eq_some_iff.mp made).1
  cases act with
  | step number =>
      rcases preview.exists_calling number with ⟨calls, _⟩ | ⟨moment, call, calling, same⟩
      · exact (silent calls).elim
      · rw [Preview.act, same, calls_call, Array.getElem?_push, calling.calls] at made
        split at made
        · next last =>
            obtain ⟨rfl, rfl⟩ := Prod.mk.inj (Option.some.inj made)
            exact ⟨number, moment, rfl, calling, same, calling.calls ▸ last.symm, rfl⟩
        · exact absurd (Array.getElem?_eq_some_iff.mp made).1 (Nat.not_lt.mpr later)
  | moveTo instant => exact (silent rfl).elim
  | sleep milliseconds => exact atomic.elim
  | finish number => exact atomic.elim
  | run program =>
      obtain ⟨_, calls, _⟩ := oneLive.settled
      rw [Preview.act, run_eq_install, ← Array.getElem?_toList, calls_install, calls,
        List.getElem?_append_right (by rwa [Array.length_toList])] at made
      have member := List.mem_of_getElem? made
      simp at member
  | setPin pin high => exact (silent rfl).elim
  | togglePin pin => exact (silent rfl).elim
  | stop => exact (silent (calls_stop preview)).elim
  | stopRun number => exact (silent rfl).elim

private theorem exists_step_of_follow {preview : Preview} (oneLive : preview.OneLive)
    {acts : List Act}
    (atomic : ∀ act ∈ acts, act.IsMoment) {index time : Nat} {pin : UInt8} {high : Bool}
    (later : preview.calls.size ≤ index)
    (made : (preview.follow acts).calls[index]? = some (time, .indicator pin high)) :
    ∃ passed number rest moment, acts = passed ++ .step number :: rest ∧
      Calling (preview.follow passed) moment (.indicator pin high) ∧
      ((preview.follow passed).step number).1 = moment.call (.indicator pin high) ∧
      moment.calls.size = index ∧ moment.now = time := by
  induction acts generalizing preview with
  | nil =>
      have inside := (Array.getElem?_eq_some_iff.mp made).1
      exact absurd inside (Nat.not_lt.mpr later)
  | cons act acts inductionHypothesis =>
      obtain ⟨moment, moments⟩ := List.forall_mem_cons.mp atomic
      by_cases yet : (preview.act act).calls.size ≤ index
      · obtain ⟨passed, number, rest, moment, split, calling⟩ :=
          inductionHypothesis (oneLive.act act) moments yet made
        exact ⟨act :: passed, number, rest, moment, by rw [split]; rfl, calling⟩
      · have kept :
            (preview.act act).calls.toList <+: (preview.follow (act :: acts)).calls.toList :=
          (lasts_calls _).follow acts (List.prefix_refl _)
        have early : (preview.act act).calls[index]? = some (time, .indicator pin high) := by
          have inside : index < (preview.act act).calls.toList.length := by
            rw [Array.length_toList]
            exact Nat.lt_of_not_le yet
          obtain ⟨_, calls⟩ := kept
          rw [← made, ← Array.getElem?_toList, ← Array.getElem?_toList, ← calls,
            List.getElem?_append_left inside]
        obtain ⟨number, moment, rfl, calling⟩ := exists_step_of_act oneLive moment later early
        exact ⟨[], number, acts, _, rfl, calling⟩

/-- Starting changes no pin; what may do so happens outside during its two calls. -/
theorem pins_run {preview : Preview} (oneLive : preview.OneLive) (program : Program) :
    (preview.run program).pins = preview.pins.changeAll
      ((preview.settings.reactions (preview.calls.size + 1) ++
        preview.settings.reactions (preview.calls.size + 2)).flatMap Reaction.pinChanges) := by
  obtain ⟨_, calls, settings⟩ := oneLive.settled
  have colored := pins_call preview.settled (.color preview.settled.settings.color)
  have cleared := pins_call (preview.settled.call (.color preview.settled.settings.color)) .clear
  have kept : (preview.settled.call (.color preview.settled.settings.color)).settings =
      preview.settings := ((lasts_settings preview.settings).withstands 0).call _ settings
  rw [kept, size_calls_call, calls, colored, settings, calls, pins_settled oneLive,
    ← PinBank.changeAll_append, ← List.flatMap_append] at cleared
  rw [run_eq_install]
  change ((preview.settled.call (.color preview.settled.settings.color)).call .clear).pins = _
  rw [settings]
  exact cleared

/-- The step with which a run ends changes no pin. -/
theorem pins_step_of_ended {preview : Preview} {number : Nat}
    (ended : ((preview.step number).1.report? number).isSome) :
    (preview.step number).1.pins = preview.pins := by
  cases found : preview.runs[number]? with
  | none => rw [step_of_none found]
  | some run =>
      by_cases ready : run.isReady preview.now
      · have unended : run.report = none := Run.going_of_isReady ready
        cases takes : run.machine.step (preview.scene run) with
        | none =>
            rw [step_of_end found ready takes]
            rfl
        | some taken =>
            obtain ⟨request, machine⟩ := taken
            rw [step_of_request found ready takes] at ended ⊢
            by_cases rests : ∃ milliseconds, request = .rest milliseconds
            · obtain ⟨milliseconds, rfl⟩ := rests
              rfl
            · have unreported : ∃ after, ((preview.modifyRun number fun run =>
                  { run with machine, wakesAt := none }).grant number request).1.runs[number]? =
                    some after ∧ after.report = none := by
                apply grant_kept (fun _ _ none => none)
                  (fun milliseconds same => rests ⟨milliseconds, same⟩)
                refine ⟨{ run with machine, wakesAt := none }, ?_, unended⟩
                rw [runs_modifyRun, if_pos rfl, found]
                rfl
              obtain ⟨after, afterFound, none⟩ := unreported
              rw [report?, afterFound, Option.bind_some, none] at ended
              cases ended
      · rw [step_of_unready found ready]

/-- Pins and indicators agree. At any moment the bank is what it was in the beginning, with what the
indicators were told and what was changed from outside, in the order in which that happened, also if
things happen in the pauses of starts. When an indicator is told of a pin, the pin exists and
already reads so. Starting, stopping and ending a run changes no pin. -/
theorem pins_agree (settings : PreviewSettings) (pins : PinBank) (acts : List Act) :
    let origin := start settings pins
    let after := origin.follow acts
    after.pins = pins.changeAll (ledger acts origin) ∧
    (∀ moves, ((Stage.fresh settings pins).follow moves).preview.pins =
      pins.changeAll (Stage.ledger moves (.fresh settings pins))) ∧
    (∀ (index time : Nat) (pin : UInt8) (high : Bool),
      after.calls[index]? = some (time, .indicator pin high) →
        pin.toNat ≤ 40 ∧ ∃ (passed : List Act) (number : Nat) (rest : List Act) (moment : Preview),
          moments acts origin = passed ++ .step number :: rest ∧
          origin.follow (passed ++ [.step number]) = moment.call (.indicator pin high) ∧
          moment.calls.size = index ∧ moment.now = time ∧
          moment.pins = (origin.follow passed).pins.set pin high ∧
          moment.pins.isHigh pin = high) ∧
    (∀ program, (after.run program).pins = after.pins.changeAll
      ((settings.reactions (after.calls.size + 1) ++
        settings.reactions (after.calls.size + 2)).flatMap Reaction.pinChanges)) ∧
    after.stop.pins = after.pins ∧ (∀ number, (after.stopRun number).pins = after.pins) ∧
    ∀ number, ((after.step number).1.report? number).isSome →
      (after.step number).1.pins = after.pins := by
  intro origin after
  have oneLive : after.OneLive := oneLive_follow settings pins acts
  refine ⟨pins_follow origin acts, Stage.pins_follow (.fresh settings pins), ?_, ?_, ?_,
    fun _ => rfl, fun _ => pins_step_of_ended⟩
  · intro index time pin high made
    have madeThen : (origin.follow (moments acts origin)).calls[index]? =
        some (time, .indicator pin high) := by
      rw [follow_moments]
      exact made
    obtain ⟨passed, number, rest, moment, split, calling, stepped, size, now⟩ :=
      exists_step_of_follow (oneLive_follow settings pins []) (isMoment_moments acts origin)
        (Nat.zero_le _) madeThen
    obtain ⟨inRange, reads⟩ := calling.shown pin high rfl
    refine ⟨inRange, passed, number, rest, moment, split, ?_, size, now, calling.pins, reads⟩
    rw [follow_snoc]
    exact stepped
  · intro program
    have same : after.settings = settings := (lasts_settings settings).follow acts rfl
    rw [← same]
    exact pins_run oneLive program
  · rw [stop]
    split <;> rfl

/-- Sets a pin, and one that does not exist. -/
def driving : Program :=
  .ofActions <| .link none (.gpio 5 .high) <| .link none (.gpio 41 .high) .nil

example : ledger [.run driving, .togglePin 3, .finish 0] (start default .low) =
    [.toggle 3, .shown 5 true] := by
  decide +kernel

end Preview

end Marquee
