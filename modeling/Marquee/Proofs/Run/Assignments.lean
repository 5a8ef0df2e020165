import Marquee.Proofs.Run.Elapsed

/-!
# What a variable holds

A variable of a run holds what the run assigned to it last. Nothing but the run itself assigns to
its variables: not other runs, not the panel, and not being stopped or started anew.
-/

namespace Marquee

namespace Execution

/-- The value that the statement assigns to a variable, if it assigns one. -/
def assigned? (name : String) (execution : Execution) : Option Value :=
  match execution.statement with
  | .setVariable other input =>
    if name = other then some (execution.machine.evaluate input).1 else none
  | _ => none

/-- The variables after the statement was begun. -/
def stored (execution : Execution) : Variables :=
  match execution.statement with
  | .setVariable name input =>
    execution.machine.store.set name (execution.machine.evaluate input).1
  | _ => execution.machine.store

private theorem get?_stored (execution : Execution) (name : String) :
    execution.stored.values.get? name =
      (execution.assigned? name).or (execution.machine.store.values.get? name) := by
  rw [stored, assigned?]
  split
  · rw [Variables.set, Table.get?_set]
    split <;> rfl
  · rfl

/-- Only the variables and the dice matter to an assignment. -/
theorem stored_of_values {scene : Scene} {first second : Machine}
    (store : first.store = second.store) (dice : first.dice = second.dice)
    (statement : Statement) :
    stored ⟨scene, first, statement⟩ = stored ⟨scene, second, statement⟩ := by
  cases statement with
  | setVariable name input =>
      dsimp only [stored, Machine.evaluate]
      rw [store, dice]
  | _ => exact store

end Execution

/-- The value that is assigned to a variable last. -/
def lastAssigned? (name : String) (begun : List Execution) : Option Value :=
  (begun.filterMap (Execution.assigned? name)).getLast?

theorem lastAssigned?_append (name : String) (first second : List Execution) :
    lastAssigned? name (first ++ second) =
      (lastAssigned? name second).or (lastAssigned? name first) := by
  rw [lastAssigned?, List.filterMap_append, List.getLast?_append]
  rfl

theorem lastAssigned?_singleton (name : String) (execution : Execution) :
    lastAssigned? name [execution] = execution.assigned? name := by
  cases assigned : execution.assigned? name <;> simp [lastAssigned?, assigned]

namespace Machine

private theorem store_setColor (scene : Scene) (machine : Machine) (input : Input) :
    (machine.setColor scene input).2.store = machine.store := by
  have text : (machine.colorText input).2.store = machine.store := by
    cases input with
    | block name expression => cases expression <;> rfl
    | _ => rfl
  rw [setColor]
  split
  · next after found =>
      rw [found] at text
      exact text
  · next shown after found =>
      rw [found] at text
      split
      · split <;> exact text
      · exact text

private theorem store_execute (scene : Scene) (machine : Machine) (statement : Statement) :
    (machine.execute scene statement).2.store = Execution.stored ⟨scene, machine, statement⟩ := by
  cases statement with
  | playAnimation folder playFor =>
      rw [execute]
      split <;> rfl
  | gpio pin level =>
      rw [execute]
      split <;> rfl
  | setColor color => exact machine.store_setColor scene color
  | _ => rfl

/-- A step assigns what the statement assigns that it begins, and else nothing. -/
theorem store_step {scene : Scene} {machine next : Machine} {request : Request}
    (takes : machine.step scene = some (request, next)) :
    next.store = ((machine.begins? scene).map Execution.stored).getD machine.store := by
  obtain ⟨tasks, store, dice, executed⟩ := machine
  cases tasks with
  | nil => cases takes
  | cons task rest =>
      have performed := congrArg Prod.snd (Option.some.inj takes)
      dsimp only at performed
      subst performed
      cases task with
      | chain statements =>
          cases statements with
          | nil => rfl
          | link id statement below =>
              rw [perform, begins?]
              dsimp only
              split
              · rfl
              · rw [store_execute]
                exact Execution.stored_of_values rfl rfl statement
      | yield => rfl
      | rest milliseconds =>
          rw [perform]
          split <;> rfl
      | times left body =>
          cases left with
          | zero => rfl
          | succ left =>
              rw [perform]
              split <;> rfl
      | forever body =>
          rw [perform]
          split <;> rfl
      | whileHolds condition body =>
          rw [perform]
          split
          · rfl
          · dsimp only
            split <;> rfl
      | animation shown =>
          rw [perform]
          split <;> rfl

private theorem machine_of_begins? {scene : Scene} {machine : Machine} {execution : Execution}
    (begins : machine.begins? scene = some execution) : execution.machine = machine := by
  rw [begins?] at begins
  split at begins
  · split at begins
    · cases begins
    · cases begins
      rfl
  · cases begins

private theorem begins?_of_stopped {scene : Scene} (stopped : scene.stopped = true)
    (machine : Machine) :
    machine.begins? scene = none := by
  rw [begins?]
  split
  · rw [if_pos stopped]
  · rfl

end Machine

namespace Preview

/-- The variables of a run; one that is not there has none. -/
def storeOf (preview : Preview) (number : Nat) : Variables :=
  (preview.runs[number]?.map fun run => run.machine.store).getD .empty

section

variable {preview : Preview} {number : Nat}

theorem storeOf_of_found {run : Run} (found : preview.runs[number]? = some run) :
    preview.storeOf number = run.machine.store := by
  rw [storeOf, found]
  rfl

private theorem storeOf_modifyRun (preview : Preview) (other number : Nat) (change : Run → Run)
    (same : ∀ run, (change run).machine.store = run.machine.store) :
    (preview.modifyRun other change).storeOf number = preview.storeOf number := by
  rw [storeOf, storeOf, runs_modifyRun]
  split
  · rw [Option.map_map]
    exact congrArg (Option.getD · _) (Option.map_congr fun run _ => same run)
  · rfl

private theorem storeOf_stopRun (preview : Preview) (other number : Nat) :
    (preview.stopRun other).storeOf number = preview.storeOf number :=
  preview.storeOf_modifyRun other number (Run.stop · preview.now) fun _ => rfl

private theorem storeOf_stop (preview : Preview) (number : Nat) :
    preview.stop.storeOf number = preview.storeOf number := by
  rw [stop]
  split
  · exact preview.storeOf_stopRun _ number
  · rfl

private theorem withstands_storeOf {other : Nat} (different : other ≠ number) (store : Variables) :
    Withstands other fun preview => preview.storeOf number = store where
  change _ same := by
    rw [storeOf, runs_modifyRun, if_neg different]
    exact same
  record _ same := same
  setPin _ _ same := same
  stop same := (storeOf_stop _ number).trans same

private theorem storeOf_call (preview : Preview) (panelCall : PanelCall) (number : Nat) :
    (preview.call panelCall).storeOf number = preview.storeOf number :=
  (withstands_storeOf (Nat.succ_ne_self number) _).call panelCall rfl

private theorem storeOf_grant (preview : Preview) (other : Nat) (request : Request) (number : Nat) :
    (preview.grant other request).1.storeOf number = preview.storeOf number := by
  cases request with
  | nothing => rfl
  | call panelCall => exact preview.storeOf_call panelCall number
  | drive pin high => exact (preview.setPin pin high).storeOf_call _ number
  | rest milliseconds => exact preview.storeOf_modifyRun other number _ fun _ => rfl
  | yield => rfl

private theorem storeOf_install (preview : Preview) (statements : Chain) (number : Nat) :
    (preview.install statements).storeOf number = preview.storeOf number := by
  have ready : ((preview.call (.color preview.settings.color)).call .clear).storeOf number =
      preview.storeOf number := by
    rw [storeOf_call, storeOf_call]
  rw [← ready, install]
  generalize (preview.call (.color preview.settings.color)).call .clear = settled
  rw [storeOf, storeOf, Array.getElem?_push]
  split
  · next last =>
      rw [last, Array.getElem?_size]
      rfl
  · rfl

/-- A run that takes a step assigns what the statement assigns that it begins. -/
theorem storeOf_step (preview : Preview) (number : Nat) :
    (preview.step number).1.storeOf number =
      ((preview.begins? number).map Execution.stored).getD (preview.storeOf number) := by
  cases found : preview.runs[number]? with
  | none =>
      rw [step_of_none found, begins?, found]
      rfl
  | some run =>
      by_cases ready : run.isReady preview.now
      · rw [begins?_of_found found ready, storeOf_of_found found]
        cases takes : run.machine.step (preview.scene run) with
        | none =>
            have nothing : run.machine.begins? (preview.scene run) = none := by
              rw [Machine.step] at takes
              rw [Machine.begins?]
              split at takes
              · next done => rw [done]
              · cases takes
            have finished := preview.storeOf_modifyRun number number (Run.finish · preview.now)
              fun _ => rfl
            rw [step_of_end found ready takes, nothing, finished, storeOf_of_found found]
            rfl
        | some taken =>
            obtain ⟨request, machine⟩ := taken
            rw [step_of_request found ready takes, storeOf_grant, storeOf, runs_modifyRun,
              if_pos rfl, found, ← Machine.store_step takes]
            rfl
      · rw [step_of_unready found ready, begins?, found, Option.bind_some, if_neg ready]
        rfl

private theorem store_of_begins? {execution : Execution}
    (begins : preview.begins? number = some execution) :
    execution.machine.store = preview.storeOf number := by
  obtain ⟨run, found, taken⟩ := Option.bind_eq_some_iff.mp begins
  split at taken
  · rw [storeOf_of_found found]
    exact congrArg Machine.store (Machine.machine_of_begins? taken)
  · cases taken

theorem Calm.begins?_eq_none (calm : preview.Calm) (number : Nat) :
    preview.begins? number = none := by
  rw [begins?, Option.bind_eq_none_iff]
  intro run found
  have stopped : (preview.scene run).stopped = true := by
    simpa [scene] using calm number run found
  split
  · exact Machine.begins?_of_stopped stopped run.machine
  · rfl

/-- While no run is live, nothing is assigned. -/
theorem keeps_storeOf (number : Nat) (store : Variables) :
    Keeps fun preview => preview.Calm ∧ preview.storeOf number = store := by
  refine ⟨⟨?_⟩, fun _ same => same⟩
  rintro preview other ⟨calm, same⟩
  refine ⟨keeps_calm.step other calm, ?_⟩
  -- A run that is stopped may go on taking steps, but begins no statement in them.
  by_cases own : other = number
  · rw [own, storeOf_step, calm.begins?_eq_none]
    exact same
  · exact (withstands_storeOf own store).step same

theorem OneLive.storeOf_settled (oneLive : preview.OneLive) (number : Nat) :
    preview.settled.storeOf number = preview.storeOf number := by
  rw [Preview.settled]
  split
  · exact ((keeps_storeOf number _).sleep _
      ⟨oneLive.calm_stop, preview.storeOf_stop number⟩).2
  · rfl

private theorem get?_storeOf_act (oneLive : preview.OneLive) {act : Act} (atomic : act.IsMoment)
    (number : Nat) (name : String) :
    ((preview.act act).storeOf number).values.get? name =
      (lastAssigned? name (preview.begunBy number act)).or
        ((preview.storeOf number).values.get? name) := by
  have unassigned {after : Preview} (same : after.storeOf number = preview.storeOf number) :
      (after.storeOf number).values.get? name =
        (lastAssigned? name []).or ((preview.storeOf number).values.get? name) := by
    rw [same]
    rfl
  cases act with
  | step other =>
      rw [begunBy]
      split
      · next own =>
          rw [own, Preview.act, storeOf_step]
          cases begins : preview.begins? number with
          | none => rfl
          | some execution =>
              rw [← store_of_begins? begins, Option.toList_some, lastAssigned?_singleton]
              exact execution.get?_stored name
      · next different => exact unassigned ((withstands_storeOf different _).step rfl)
  | moveTo instant => exact unassigned rfl
  | sleep milliseconds => exact atomic.elim
  | finish other => exact atomic.elim
  | run program =>
      rw [Preview.act, run_eq_install]
      exact unassigned ((storeOf_install _ _ number).trans (oneLive.storeOf_settled number))
  | setPin pin high => exact unassigned rfl
  | togglePin pin => exact unassigned rfl
  | stop => exact unassigned (preview.storeOf_stop number)
  | stopRun other => exact unassigned (preview.storeOf_stopRun other number)

private theorem get?_storeOf_follow {acts : List Act} (oneLive : preview.OneLive)
    (atomic : ∀ act ∈ acts, act.IsMoment) (number : Nat) (name : String) :
    ((preview.follow acts).storeOf number).values.get? name =
      (lastAssigned? name (executions number acts preview)).or
        ((preview.storeOf number).values.get? name) := by
  induction acts generalizing preview with
  | nil => rfl
  | cons act acts inductionHypothesis =>
      obtain ⟨first, others⟩ := List.forall_mem_cons.mp atomic
      rw [follow_cons, inductionHypothesis (oneLive.act act) others,
        get?_storeOf_act oneLive first, executions, lastAssigned?_append, Option.or_assoc]

/-- A variable of a run holds what the run assigned to it last, and nothing if it never did. -/
theorem get?_storeOf (settings : PreviewSettings) (pins : PinBank) (acts : List Act)
    (number : Nat) (name : String) :
    let origin := start settings pins
    ((origin.follow acts).storeOf number).values.get? name =
      lastAssigned? name (executions number (moments acts origin) origin) := by
  intro origin
  have oneLive : origin.OneLive := oneLive_follow settings pins []
  rw [← follow_moments, get?_storeOf_follow oneLive (isMoment_moments acts origin)]
  exact Option.or_none

end

end Preview

end Marquee
