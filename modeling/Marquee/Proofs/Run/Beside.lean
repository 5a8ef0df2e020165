import Marquee.Proofs.Run.Shift
import Marquee.Proofs.Run.Withering

/-!
# A run beside those before it

A preview in which runs went on before can be set beside one that is fresh: the run that was started
last does in the one what the only run does in the other, only later. The runs before it are
stopped, so all that they still do is to end, which nobody notices.
-/

namespace Marquee

/-- A list of which only one item counts. -/
theorem filterMap_of_single {α β : Type} {count : α → Option β} {items : List α} {place : Nat}
    {item : α} (found : items[place]? = some item)
    (others : ∀ (other : Nat) (value : α), items[other]? = some value → other ≠ place →
      count value = none) : items.filterMap count = (count item).toList := by
  induction items generalizing place with
  | nil => cases found
  | cons head tail inductionHypothesis =>
      cases place with
      | zero =>
          cases found
          have none : tail.filterMap count = [] := by
            rw [List.filterMap_eq_nil_iff]
            intro value member
            obtain ⟨other, otherFound⟩ := List.mem_iff_getElem?.mp member
            exact others (other + 1) value otherFound (Nat.succ_ne_zero other)
          rw [List.filterMap_cons, none]
          cases count item <;> rfl
      | succ place =>
          rw [List.filterMap_cons_none (others 0 head rfl (Nat.succ_ne_zero place).symm)]
          apply inductionHypothesis found
          intro other value otherFound different
          exact others (other + 1) value otherFound fun same => different (Nat.succ.inj same)

/-- The settings for what comes after so many runs and calls. -/
def PreviewSettings.onward (settings : PreviewSettings) (runs calls : Nat) : PreviewSettings :=
  { settings with
    dice := fun number => settings.dice (runs + number)
    reactions := fun call => settings.reactions (calls + call) }

/-- The log of calls as it is when all has begun later. -/
def laterCalls (since : Nat) (calls : Array (Nat × PanelCall)) : Array (Nat × PanelCall) :=
  calls.map fun call => (since + call.1, call.2)

namespace Preview

/-- From outside a preview looks like another one, which began at some moment of the first. -/
structure LooksLike (moment whole lone : Preview) : Prop where
  settings : lone.settings = whole.settings.onward moment.runs.size moment.calls.size
  now : whole.now = moment.now + lone.now
  pins : whole.pins = lone.pins
  calls : whole.calls = moment.calls ++ laterCalls moment.now lone.calls

/-- Since some moment, a preview does what another one does that has only one run: the run that was
started last in the first is that run, shifted in time, and the runs before it wither, none of them
with more tasks than this. -/
structure Beside (moment : Preview) (left : Nat) (whole lone : Preview) : Prop
    extends LooksLike moment whole lone where
  size : whole.runs.size = moment.runs.size + 1
  current : whole.current = some moment.runs.size
  loneCurrent : lone.current = some 0
  own : ∃ run, lone.runs = #[run] ∧ whole.runs[moment.runs.size]? = some (run.shift moment.now)
  others : ∀ number < moment.runs.size, whole.Withers number left

variable {moment whole lone : Preview} {left : Nat}

theorem LooksLike.size_calls (looks : LooksLike moment whole lone) :
    whole.calls.size = moment.calls.size + lone.calls.size := by
  rw [looks.calls, Array.size_append, laterCalls, Array.size_map]

theorem LooksLike.record (looks : LooksLike moment whole lone) (panelCall : PanelCall) :
    LooksLike moment (whole.record panelCall) (lone.record panelCall) := by
  refine ⟨looks.settings, looks.now, looks.pins, ?_⟩
  have recorded : laterCalls moment.now (lone.calls.push (lone.now, panelCall)) =
      (laterCalls moment.now lone.calls).push (whole.now, panelCall) := by
    rw [looks.now]
    exact Array.map_push
  rw [Preview.record, Preview.record]
  dsimp only
  rw [recorded, looks.calls, Array.append_push]

theorem LooksLike.setPin (looks : LooksLike moment whole lone) (pin : UInt8) (high : Bool) :
    LooksLike moment (whole.setPin pin high) (lone.setPin pin high) :=
  ⟨looks.settings, looks.now, congrArg (·.set pin high) looks.pins, looks.calls⟩

theorem LooksLike.moveTo (looks : LooksLike moment whole lone) (instant : Nat) :
    LooksLike moment (whole.moveTo instant) (lone.moveTo (instant - moment.now)) := by
  refine ⟨looks.settings, ?_, looks.pins, looks.calls⟩
  have now := looks.now
  rw [Preview.moveTo, Preview.moveTo]
  dsimp only
  omega

theorem LooksLike.isReady_shift (looks : LooksLike moment whole lone) (run : Run) :
    (run.shift moment.now).isReady whole.now = run.isReady lone.now := by
  rw [looks.now, Run.isReady_shift]

/-- What happens outside during the next call is the same. -/
theorem LooksLike.reactions (looks : LooksLike moment whole lone) :
    whole.settings.reactions (whole.calls.size + 1) =
      lone.settings.reactions (lone.calls.size + 1) := by
  rw [looks.settings, looks.size_calls, Nat.add_assoc]
  rfl

namespace Beside

theorem mono (beside : Beside moment left whole lone) {more : Nat} (bound : left ≤ more) :
    Beside moment more whole lone :=
  { beside with others := fun number before => (beside.others number before).mono bound }

/-- The run changes in both previews. -/
theorem modifyOwn {change loneChange : Run → Run} (beside : Beside moment left whole lone)
    (same : ∀ run : Run, change (run.shift moment.now) = (loneChange run).shift moment.now) :
    Beside moment left (whole.modifyRun moment.runs.size change) (lone.modifyRun 0 loneChange) := by
  obtain ⟨looks, size, current, loneCurrent, ⟨run, loneRuns, found⟩, others⟩ := beside
  refine ⟨⟨looks.settings, looks.now, looks.pins, looks.calls⟩, Array.size_modify.trans size,
    current, loneCurrent, ⟨loneChange run, ?_, ?_⟩, ?_⟩
  · rw [modifyRun, loneRuns]
    rfl
  · rw [runs_modifyRun, if_pos rfl, found, Option.map_some, same]
  · intro number before
    exact (others number before).modifyRun fun _ equal => absurd equal.symm (Nat.ne_of_lt before)

/-- A run changes that was there before. -/
theorem modifyOther {change : Run → Run} (beside : Beside moment left whole lone) {number : Nat}
    (different : number ≠ moment.runs.size)
    (wither : ∀ other < moment.runs.size, (whole.modifyRun number change).Withers other left) :
    Beside moment left (whole.modifyRun number change) lone := by
  obtain ⟨looks, size, current, loneCurrent, ⟨run, loneRuns, found⟩, _⟩ := beside
  refine ⟨⟨looks.settings, looks.now, looks.pins, looks.calls⟩, Array.size_modify.trans size,
    current, loneCurrent, ⟨run, loneRuns, ?_⟩, wither⟩
  rw [runs_modifyRun, if_neg different, found]

/-- Another run is one that was there before, or was never started. -/
theorem cases_other (beside : Beside moment left whole lone) {number : Nat}
    (different : number ≠ moment.runs.size) :
    number < moment.runs.size ∨ whole.runs[number]? = none := by
  rcases Nat.lt_or_gt_of_ne different with before | after
  · exact Or.inl before
  · right
    rw [Array.getElem?_eq_none_iff, beside.size]
    exact after

theorem stopRun (beside : Beside moment left whole lone) :
    Beside moment left (whole.stopRun moment.runs.size) (lone.stopRun 0) := by
  rw [Preview.stopRun, Preview.stopRun, beside.now]
  exact beside.modifyOwn fun run => run.stop_shift moment.now lone.now

theorem stop (beside : Beside moment left whole lone) :
    Beside moment left whole.stop lone.stop := by
  rw [Preview.stop, Preview.stop, beside.current, beside.loneCurrent]
  exact beside.stopRun

theorem setPin (beside : Beside moment left whole lone) (pin : UInt8) (high : Bool) :
    Beside moment left (whole.setPin pin high) (lone.setPin pin high) :=
  { beside with toLooksLike := beside.toLooksLike.setPin pin high }

theorem moveTo (beside : Beside moment left whole lone) (instant : Nat) :
    Beside moment left (whole.moveTo instant) (lone.moveTo (instant - moment.now)) :=
  { beside with toLooksLike := beside.toLooksLike.moveTo instant }

theorem react (beside : Beside moment left whole lone) (reactions : List Reaction) :
    Beside moment left (reactions.foldl Preview.react whole)
      (reactions.foldl Preview.react lone) := by
  induction reactions generalizing whole lone with
  | nil => exact beside
  | cons reaction reactions inductionHypothesis =>
      apply inductionHypothesis
      cases reaction with
      | stop => exact beside.stop
      | setPin pin high => exact beside.setPin pin high

theorem call (beside : Beside moment left whole lone) (panelCall : PanelCall) :
    Beside moment left (whole.call panelCall) (lone.call panelCall) := by
  have recorded : Beside moment left (whole.record panelCall) (lone.record panelCall) :=
    { beside with toLooksLike := beside.toLooksLike.record panelCall }
  rw [call_eq, call_eq, beside.reactions]
  exact recorded.react _

theorem grant (beside : Beside moment left whole lone) (request : Request) :
    Beside moment left (whole.grant moment.runs.size request).1 (lone.grant 0 request).1 ∧
      (whole.grant moment.runs.size request).2 = (lone.grant 0 request).2 := by
  cases request with
  | nothing => exact ⟨beside, rfl⟩
  | call panelCall => exact ⟨beside.call panelCall, rfl⟩
  | drive pin high => exact ⟨(beside.setPin pin high).call _, rfl⟩
  | rest milliseconds =>
      refine ⟨?_, rfl⟩
      rw [Preview.grant, Preview.grant, beside.now, Nat.add_assoc]
      exact beside.modifyOwn fun run => rfl
  | yield => exact ⟨beside, rfl⟩

theorem step (beside : Beside moment left whole lone) :
    Beside moment left (whole.step moment.runs.size).1 (lone.step 0).1 ∧
      (whole.step moment.runs.size).2 = (lone.step 0).2 := by
  obtain ⟨run, loneRuns, found⟩ := beside.own
  have loneFound : lone.runs[0]? = some run := by
    rw [loneRuns]
    rfl
  have sameReady := beside.isReady_shift run
  have scene : whole.scene (run.shift moment.now) = (lone.scene run).shift moment.now := by
    rw [Preview.scene, Preview.scene, Run.isLive_shift, beside.settings, beside.now, beside.pins]
    rfl
  by_cases ready : run.isReady lone.now
  · have wholeReady : (run.shift moment.now).isReady whole.now := sameReady.trans ready
    have taken := run.machine.step_shift moment.now (lone.scene run)
    rw [← scene] at taken
    cases takes : run.machine.step (lone.scene run) with
    | none =>
        rw [takes] at taken
        rw [step_of_end found wholeReady taken, step_of_end loneFound ready takes, beside.now]
        exact ⟨beside.modifyOwn fun run => run.finish_shift moment.now lone.now, rfl⟩
    | some taking =>
        obtain ⟨request, machine⟩ := taking
        rw [takes] at taken
        rw [step_of_request found wholeReady taken, step_of_request loneFound ready takes]
        apply grant
        exact beside.modifyOwn fun run => rfl
  · have wholeUnready : ¬ (run.shift moment.now).isReady whole.now := by
      rw [sameReady]
      exact ready
    rw [step_of_unready found wholeUnready, step_of_unready loneFound ready]
    exact ⟨beside, rfl⟩

/-- Nobody notices a step of a run that was there before. -/
theorem stepOther (beside : Beside moment left whole lone) {number : Nat}
    (different : number ≠ moment.runs.size) : Beside moment left (whole.step number).1 lone := by
  rcases beside.cases_other different with before | absent
  · have wither : ∀ other < moment.runs.size, (whole.step number).1.Withers other left :=
      fun other earlier => Withers.keeps.step number (beside.others other earlier)
    obtain ⟨run, found, stopped, _⟩ := beside.others number before
    rw [step_stopped found stopped] at wither ⊢
    split
    · exact beside
    · next going =>
        rw [if_neg going] at wither
        exact beside.modifyOther different wither
  · rw [step_of_none absent]
    exact beside

/-- Nobody notices a stop of a run that was there before. -/
theorem stopOther (beside : Beside moment left whole lone) {number : Nat}
    (different : number ≠ moment.runs.size) : Beside moment left (whole.stopRun number) lone :=
  beside.modifyOther different fun other earlier => (beside.others other earlier).stopRun number

theorem turn (beside : Beside moment left whole lone) (steps : Nat) :
    Beside moment left (Preview.turn moment.runs.size steps whole) (Preview.turn 0 steps lone) := by
  induction steps generalizing whole lone with
  | zero => exact beside
  | succ steps inductionHypothesis =>
      obtain ⟨stepped, goesOn⟩ := beside.step
      rw [turn_succ, turn_succ, goesOn]
      split
      · exact inductionHypothesis stepped
      · exact stepped

theorem turnOther (beside : Beside moment left whole lone) {number : Nat}
    (different : number ≠ moment.runs.size) (steps : Nat) :
    Beside moment left (Preview.turn number steps whole) lone := by
  induction steps generalizing whole with
  | zero => exact beside
  | succ steps inductionHypothesis =>
      have stepped := beside.stepOther different
      rw [turn_succ]
      split
      · exact inductionHypothesis stepped
      · exact stepped

/-- Of many turns the run notices only its own. -/
theorem turns (beside : Beside moment left whole lone) (steps : Nat) {numbers : List Nat}
    (once : numbers.Nodup) :
    Beside moment left (numbers.foldl (fun preview number => preview.turn number steps) whole)
      (if moment.runs.size ∈ numbers then Preview.turn 0 steps lone else lone) := by
  induction numbers generalizing whole lone with
  | nil => exact beside
  | cons number numbers inductionHypothesis =>
      obtain ⟨absent, rest⟩ := List.nodup_cons.mp once
      by_cases own : number = moment.runs.size
      · subst own
        have after := inductionHypothesis (beside.turn steps) rest
        rw [if_neg absent] at after
        rw [if_pos List.mem_cons_self]
        exact after
      · have after := inductionHypothesis (beside.turnOther own steps) rest
        simpa [Ne.symm own] using after

/-- The run is ready in both previews, or in none. -/
theorem readyRuns (beside : Beside moment left whole lone) :
    moment.runs.size ∉ whole.readyRuns ∧ lone.readyRuns = [] ∨
      moment.runs.size ∈ whole.readyRuns ∧ lone.readyRuns = [0] := by
  obtain ⟨run, loneRuns, found⟩ := beside.own
  have sameReady := beside.isReady_shift run
  have member : moment.runs.size ∈ whole.readyRuns ↔ run.isReady lone.now := by
    rw [mem_readyRuns_iff, found, ← sameReady]
    simp
  have only : lone.readyRuns = [0].filter fun _ => run.isReady lone.now := by
    rw [Preview.readyRuns, loneRuns]
    rfl
  rw [member, only]
  cases run.isReady lone.now <;> simp

/-- A round of the whole preview is a round for the run, if it is ready. -/
theorem round (beside : Beside moment left whole lone) (steps : Nat) :
    Beside moment left (whole.round steps)
      (if lone.readyRuns.isEmpty then lone else lone.round steps) := by
  have once : whole.readyRuns.Nodup := List.nodup_range.filter _
  have turns := beside.turns steps once
  rw [Preview.round, Preview.round]
  rcases beside.readyRuns with ⟨absent, none⟩ | ⟨member, ready⟩
  · rw [if_neg absent] at turns
    rw [none]
    exact turns
  · rw [if_pos member] at turns
    rw [ready]
    exact turns

/-- If runs are ready, but not this one, then one that was there before comes nearer to its end. -/
theorem left_pos (beside : Beside moment left whole lone) (ready : whole.readyRuns ≠ [])
    (absent : moment.runs.size ∉ whole.readyRuns) : left ≠ 0 := by
  rintro rfl
  obtain ⟨number, member⟩ := List.exists_mem_of_ne_nil _ ready
  have different : number ≠ moment.runs.size := by
    rintro rfl
    exact absent member
  obtain ⟨run, found, runReady⟩ := mem_readyRuns_iff.mp member
  rcases beside.cases_other different with before | none
  · have ended := (beside.others number before).isSome_report?
    rw [Preview.report?, found, Option.bind_some] at ended
    rw [Run.isReady, Option.isNone_eq_false_iff.mpr ended] at runReady
    cases runReady
  · rw [none] at found
    cases found

/-- A round takes the runs that were there before nearer to their end. -/
theorem wither {steps : Nat} {next : Preview} (beside : Beside moment (left + 1) whole lone)
    (after : Beside moment (left + 1) (whole.round (steps + 1)) next) :
    Beside moment left (whole.round (steps + 1)) next :=
  { after with others := fun number before => (beside.others number before).round steps }

/-- When no run is ready, those before have ended, so the run wakes first. -/
theorem nextWake? (beside : Beside moment left whole lone) (resting : whole.readyRuns = []) :
    whole.nextWake? = lone.nextWake?.map (moment.now + ·) := by
  obtain ⟨run, loneRuns, found⟩ := beside.own
  have ended : ∀ (number : Nat) (other : Run), whole.runs.toList[number]? = some other →
      number ≠ moment.runs.size → other.wake? = none := by
    intro number other otherFound different
    rw [Array.getElem?_toList] at otherFound
    rcases beside.cases_other different with before | absent
    · have reported : (whole.report? number).isSome := by
        apply Classical.byContradiction
        intro going
        have member := (beside.others number before).ready going
        rw [resting] at member
        cases member
      rw [Preview.report?, otherFound, Option.bind_some] at reported
      rw [Run.wake?, Option.isNone_eq_false_iff.mpr reported]
      rfl
    · rw [absent] at otherFound
      cases otherFound
  rw [← Array.getElem?_toList] at found
  rw [Preview.nextWake?, Preview.nextWake?, filterMap_of_single found ended, loneRuns,
    Run.wake?_shift, List.filterMap_cons]
  cases run.wake? <;> rfl

end Beside

end Preview

end Marquee
