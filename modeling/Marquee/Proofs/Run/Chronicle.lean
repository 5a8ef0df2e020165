import Marquee.Proofs.Run.Live

/-!
# The chronicle of a preview

Three things bear on the clock of a run: its session is created, somebody stops it, and the walk of
its program returns. The chronicle of a preview notes them, each at its instant, in the order in
which they happen. It is read off what happens, not off what the runs remember: a stop is noted
whoever makes it, also when it comes too late to matter.
-/

namespace Marquee

inductive Mark where
  | created
  /-- The session is stopped: by the preview, by its handle, or by the start of the next run. -/
  | stopped
  /-- The walk of the program returns. -/
  | returned
  deriving DecidableEq, Repr

/-- What happened to a run, and when. -/
structure Note where
  instant : Nat
  number : Nat
  mark : Mark
  deriving DecidableEq, Repr

/-- When the session of a run was created. -/
def createdAt? (log : List Note) (number : Nat) : Option Nat :=
  (log.find? fun note => note.number = number ∧ note.mark = .created).map Note.instant

/-- What closed a run: the first stop of its session or the return of its walk, whichever came
first. -/
def closing? (log : List Note) (number : Nat) : Option Note :=
  log.find? fun note => note.number = number ∧ note.mark ≠ .created

def HasReturned (log : List Note) (number : Nat) : Prop :=
  ∃ note ∈ log, note.number = number ∧ note.mark = .returned

theorem createdAt?_append (first second : List Note) (number : Nat) :
    createdAt? (first ++ second) number =
      (createdAt? first number).or (createdAt? second number) := by
  rw [createdAt?, List.find?_append, Option.map_or]
  rfl

theorem closing?_append (first second : List Note) (number : Nat) :
    closing? (first ++ second) number = (closing? first number).or (closing? second number) :=
  List.find?_append

theorem hasReturned_append (first second : List Note) (number : Nat) :
    HasReturned (first ++ second) number ↔
      HasReturned first number ∨ HasReturned second number := by
  simp only [HasReturned, List.mem_append, or_and_right, exists_or]

section

variable {log : List Note} {number : Nat}

/-- What a chronicle says of a run that it does not know. -/
theorem unknown_of_absent (absent : ∀ note ∈ log, note.number ≠ number) :
    createdAt? log number = none ∧ closing? log number = none ∧ ¬ HasReturned log number := by
  refine ⟨?_, ?_, ?_⟩
  · rw [createdAt?, Option.map_eq_none_iff, List.find?_eq_none]
    intro note member
    simp [absent note member]
  · rw [closing?, List.find?_eq_none]
    intro note member
    simp [absent note member]
  · rintro ⟨note, member, same, _⟩
    exact absent note member same

theorem of_closing? {closing : Note} (found : closing? log number = some closing) :
    closing ∈ log ∧ closing.number = number ∧ closing.mark ≠ .created := by
  rw [closing?] at found
  have passes := List.find?_some found
  rw [decide_eq_true_iff] at passes
  exact ⟨List.mem_of_find?_eq_some found, passes⟩

end

namespace Preview

/-- A stop of a session that there is. -/
def stopRunLog (preview : Preview) (number : Nat) : List Note :=
  if number < preview.runs.size then [⟨preview.now, number, .stopped⟩] else []

def stopLog (preview : Preview) : List Note :=
  match preview.current with
  | some number => preview.stopRunLog number
  | none => []

def reactLog (preview : Preview) : Reaction → List Note
  | .stop => preview.stopLog
  | .setPin _ _ => []

def reactionsLog : List Reaction → Preview → List Note
  | [], _ => []
  | reaction :: rest, preview =>
    preview.reactLog reaction ++ reactionsLog rest (preview.react reaction)

def callLog (preview : Preview) (panelCall : PanelCall) : List Note :=
  reactionsLog (preview.settings.reactions (preview.calls.size + 1)) (preview.record panelCall)

def grantLog (preview : Preview) : Request → List Note
  | .call panelCall => preview.callLog panelCall
  | .drive pin high => (preview.setPin pin high).callLog (.indicator pin high)
  | _ => []

def stepLog (preview : Preview) (number : Nat) : List Note :=
  match preview.runs[number]? with
  | none => []
  | some run =>
    if run.isReady preview.now then
      match run.machine.step (preview.scene run) with
      | none => [⟨preview.now, number, .returned⟩]
      | some (request, machine) =>
        (preview.modifyRun number fun run => { run with machine, wakesAt := none }).grantLog request
    else []

def turnLog (number : Nat) : Nat → Preview → List Note
  | 0, _ => []
  | steps + 1, preview =>
    preview.stepLog number ++
      if (preview.step number).2 then turnLog number steps (preview.step number).1 else []

def turnsLog (steps : Nat) : List Nat → Preview → List Note
  | [], _ => []
  | number :: rest, preview =>
    turnLog number steps preview ++ turnsLog steps rest (preview.turn number steps)

def roundLog (steps : Nat) (preview : Preview) : List Note :=
  turnsLog steps preview.readyRuns preview

def passUntilLog (instant : Nat) : Nat → Preview → List Note
  | 0, _ => []
  | rounds + 1, preview =>
    if preview.readyRuns.isEmpty then
      match preview.nextWake? with
      | some wakesAt =>
        if wakesAt < instant then passUntilLog instant rounds (preview.moveTo wakesAt) else []
      | none => []
    else preview.roundLog patience ++ passUntilLog instant rounds (preview.round patience)

def sleepLog (preview : Preview) (milliseconds : Nat) : List Note :=
  if milliseconds = 0 then [] else passUntilLog (preview.now + milliseconds) patience preview

def passToEndLog (number : Nat) : Nat → Preview → List Note
  | 0, _ => []
  | rounds + 1, preview =>
    if (preview.report? number).isSome then []
    else if preview.readyRuns.isEmpty then
      match preview.nextWake? with
      | some wakesAt => passToEndLog number rounds (preview.moveTo wakesAt)
      | none => []
    else preview.roundLog patience ++ passToEndLog number rounds (preview.round patience)

/-- The session is created after the panel was made ready. -/
def installLog (preview : Preview) : List Note :=
  let colored := preview.call (.color preview.settings.color)
  let ready := colored.call .clear
  preview.callLog (.color preview.settings.color) ++ colored.callLog .clear ++
    [⟨ready.now, ready.runs.size, .created⟩]

def runLog (preview : Preview) : List Note :=
  if preview.isRunning then
    let settled := preview.stop.sleep preview.settings.settle
    preview.stopLog ++ preview.stop.sleepLog preview.settings.settle ++ settled.installLog
  else preview.installLog

def actLog (preview : Preview) : Act → List Note
  | .step number => preview.stepLog number
  | .sleep milliseconds => preview.sleepLog milliseconds
  | .finish number => passToEndLog number patience preview
  | .run _ => preview.runLog
  | .stop => preview.stopLog
  | .stopRun number => preview.stopRunLog number
  | .moveTo _ => []
  | .setPin _ _ => []
  | .togglePin _ => []

/-- What is noted while all this happens to a preview, one after the other. -/
def chronicle : List Act → Preview → List Note
  | [], _ => []
  | act :: rest, preview => preview.actLog act ++ chronicle rest (preview.act act)

end Preview

end Marquee
