import Marquee.Proofs.Editor.Accounting

/-!
# Loads that fail

A load fails for one of three reasons: the text is no document, the document holds no program, or
the editor refuses to make the start block. For the first two the editor is asked for nothing, and
for the third only for the start block. From a start block that was made the load goes on to the
end, whatever is refused on the way: the report counts it, and the load gives the start block.
-/

namespace Marquee

open Loading

section

variable {σ β : Type} (sink : Sink σ β)

/-- How the load of a text into an editor fails: with which error, how it leaves the editor, and
which calls the editor took. -/
inductive Document.Fails (text : String) (editor : σ) : LoadError → σ → List (Call β) → Prop where
  | unreadable {error : LoadError} (read : Document.parse text = .error error) :
      Fails text editor error editor []
  | noProgram {reason : String} (read : Document.parse text = .ok (.noProgram reason)) :
      Fails text editor (.noProgram reason) editor []
  | rootRefused {program : Program} {refusal : Refusal} {after : σ}
      (read : Document.parse text = .ok (.program program))
      (asked : sink.allocate .start editor = (.error refusal, after)) :
      Fails text editor (.rootRefused refusal) after [.allocate .start (.error refusal)]

private theorem Program.load_of_refused (program : Program) {editor after : σ} {refusal : Refusal}
    (asked : sink.allocate .start editor = (.error refusal, after)) :
    program.load sink editor = (.error (.rootRefused refusal), after) := by
  simp only [Program.load, place, Loading.start, bind_lookup_nil, asked]

private theorem Program.load_of_made (program : Program) {editor after : σ} {root : β}
    (asked : sink.allocate .start editor = (.ok root, after)) :
    let built :=
      program.actions.loadSlot sink root "DO" (enter (.start editor) program.id root after)
    program.load sink editor = (.ok (root, built.report), built.editor) := by
  simp only [Program.load, place, Loading.start, bind_lookup_nil, asked]
  rfl

private theorem Sink.allocate_logged {kind : Kind} {editor after : σ} {answer : Except Refusal β}
    (asked : sink.allocate kind editor = (answer, after)) (log : List (Call β)) :
    sink.logged.allocate kind (editor, log) = (answer, after, log ++ [.allocate kind answer]) := by
  simp only [Sink.logged, Sink.log, asked]

/-- What hangs on a start block that was made is counted, and none of it makes the load fail. -/
theorem Program.exists_load_of_made (program : Program) {editor after : σ} {root : β}
    (asked : sink.allocate .start editor = (.ok root, after)) :
    ∃ report final log,
      program.load sink editor = (.ok (root, report), final) ∧
        program.load sink.logged (editor, []) =
          (.ok (root, report), final, .allocate .start (.ok root) :: log) ∧
        report.skipped = log.countP Call.isSkip := by
  let first : List (Call β) := [.allocate .start (.ok root)]
  let started : Loading (σ × List (Call β)) β :=
    enter (.start (editor, [])) program.id root (after, first)
  obtain ⟨same, log, _, books⟩ := program.actions.accounted_loadSlot sink root "DO" started
  let built := program.actions.loadSlot sink.logged root "DO" started
  have written : built.editor.2 = first ++ log := books.written
  have skipped : built.report.skipped = 0 + log.countP Call.isSkip := books.skipped
  rw [Nat.zero_add] at skipped
  refine ⟨built.report, built.editor.1, log, ?_, ?_, skipped⟩
  · have plain := program.load_of_made sink asked
    have forgotten : built.forget = program.actions.loadSlot sink root "DO"
        (enter (.start editor) program.id root after) := same
    rw [plain, ← forgotten]
    rfl
  · have logged := program.load_of_made sink.logged (sink.allocate_logged asked [])
    have last : built.editor = (built.editor.1, .allocate .start (.ok root) :: log) :=
      Prod.ext rfl written
    rw [← last]
    exact logged

namespace Document

private theorem load_of_program {text : String} {program : Program}
    (read : parse text = .ok (.program program)) (editor : σ) :
    load sink text editor = program.load sink editor := by
  rw [load, read]
  rfl

theorem Fails.load_eq {text : String} {editor after : σ} {error : LoadError} {log : List (Call β)}
    (fails : Fails sink text editor error after log) :
    load sink text editor = (.error error, after) ∧
      load sink.logged text (editor, []) = (.error error, after, log) := by
  cases fails with
  | unreadable read =>
      rw [load, load, read]
      exact ⟨rfl, rfl⟩
  | noProgram read =>
      rw [load, load, read]
      exact ⟨rfl, rfl⟩
  | rootRefused read asked =>
      rw [load_of_program sink read, load_of_program sink.logged read]
      exact ⟨Program.load_of_refused sink _ asked,
        Program.load_of_refused sink.logged _ (sink.allocate_logged asked [])⟩

/-- A load fails, or the text holds a program and the start block is made. -/
theorem fails_or_made (text : String) (editor : σ) :
    (∃ error after log, Fails sink text editor error after log) ∨
      ∃ program root after, parse text = .ok (.program program) ∧
        sink.allocate .start editor = (.ok root, after) := by
  cases read : parse text with
  | error error => exact Or.inl ⟨error, editor, [], .unreadable read⟩
  | ok document =>
      cases document with
      | noProgram reason => exact Or.inl ⟨.noProgram reason, editor, [], .noProgram read⟩
      | program program =>
          cases asked : sink.allocate .start editor with
          | mk answer after =>
              cases answer with
              | error refusal => exact Or.inl ⟨_, after, _, .rootRefused read asked⟩
              | ok root => exact Or.inr ⟨program, root, after, rfl, rfl⟩

/-- A load of a program whose start block is made gives that block. -/
theorem exists_load_of_made {text : String} {program : Program} {editor after : σ} {root : β}
    (read : parse text = .ok (.program program))
    (asked : sink.allocate .start editor = (.ok root, after)) :
    ∃ report final log,
      load sink text editor = (.ok (root, report), final) ∧
        load sink.logged text (editor, []) =
          (.ok (root, report), final, .allocate .start (.ok root) :: log) ∧
        report.skipped = log.countP Call.isSkip := by
  rw [load_of_program sink read, load_of_program sink.logged read]
  exact program.exists_load_of_made sink asked

private theorem fails_of_load_logged {text : String} {editor after : σ} {error : LoadError}
    {log : List (Call β)}
    (failed : load sink.logged text (editor, []) = (.error error, after, log)) :
    Fails sink text editor error after log := by
  rcases fails_or_made sink text editor with
    ⟨cause, left, calls, fails⟩ | ⟨program, root, made, read, asked⟩
  · rw [fails.load_eq.2] at failed
    cases failed
    exact fails
  · obtain ⟨report, final, calls, _, logged, _⟩ := exists_load_of_made sink read asked
    rw [logged] at failed
    cases failed

/-- The log changes nothing. -/
theorem exists_load_logged (text : String) (editor : σ) :
    ∃ log, load sink.logged text (editor, []) =
      ((load sink text editor).1, (load sink text editor).2, log) := by
  rcases fails_or_made sink text editor with
    ⟨error, after, log, fails⟩ | ⟨program, root, after, read, asked⟩
  · obtain ⟨plain, logged⟩ := fails.load_eq
    rw [plain, logged]
    exact ⟨log, rfl⟩
  · obtain ⟨report, final, log, plain, logged, _⟩ := exists_load_of_made sink read asked
    rw [plain, logged]
    exact ⟨_, rfl⟩

/-- A load that fails leaves an editor as it was, if the editor is not changed by refusing the start
block. -/
theorem Fails.unchanged {text : String} {editor after : σ} {error : LoadError}
    {log : List (Call β)} (fails : Fails sink text editor error after log)
    (calm : ∀ refusal left, sink.allocate .start editor = (.error refusal, left) → left = editor) :
    after = editor := by
  cases fails with
  | unreadable read => rfl
  | noProgram read => rfl
  | rootRefused read asked => exact calm _ _ asked

/-- A load fails in one of the three ways and in no other, and what it asks the editor for is then
at most the start block. If the text holds a program and the start block is made, the load gives
that block, whatever the editor answers from then on: the report counts the blocks and connections
that were refused. All this is seen in an editor that keeps a log, which changes nothing else. So an
editor that is not changed by refusing the start block is not changed by a load that fails. -/
theorem load_all_or_nothing (text : String) (editor : σ) :
    (∀ error after log,
      load sink.logged text (editor, []) = (.error error, after, log) ↔
        Fails sink text editor error after log) ∧
    (∀ program root after, parse text = .ok (.program program) →
      sink.allocate .start editor = (.ok root, after) →
      ∃ report final log,
        load sink.logged text (editor, []) =
            (.ok (root, report), final, .allocate .start (.ok root) :: log) ∧
          report.skipped = log.countP Call.isSkip) ∧
    (∃ log, load sink.logged text (editor, []) =
      ((load sink text editor).1, (load sink text editor).2, log)) ∧
    ((∀ refusal after, sink.allocate .start editor = (.error refusal, after) → after = editor) →
      ∀ error after, load sink text editor = (.error error, after) → after = editor) := by
  refine ⟨fun error after log => ⟨fails_of_load_logged sink, fun fails => fails.load_eq.2⟩, ?_,
    exists_load_logged sink text editor, ?_⟩
  · intro program root after read asked
    obtain ⟨report, final, log, _, logged, skipped⟩ := exists_load_of_made sink read asked
    exact ⟨report, final, log, logged, skipped⟩
  · intro calm error after failed
    obtain ⟨log, logged⟩ := exists_load_logged sink text editor
    rw [failed] at logged
    exact (fails_of_load_logged sink logged).unchanged sink calm

end Document

end

/-- An editor that makes no waits, sets no pins, and connects nothing. -/
def stubborn : Sink Workspace Nat :=
  Dislikes.sink ⟨[.wait], ["PIN"], ["DO", "next"]⟩ Workspace.kindOf Workspace.sink

theorem load_all_or_nothing_stubborn :
    let program : Program :=
      ⟨none, .link none (.gpio 0 .high) <| .link none (.wait .empty) .nil, .nil⟩
    let text := (Document.program program).compact
    Document.parse text = .ok (.program program) ∧
      (stubborn.allocate .start .empty).1 = .ok 0 ∧
      (∃ report final log,
        Document.load stubborn.logged text (.empty, []) =
            (.ok (0, report), final, .allocate .start (.ok 0) :: log) ∧
          report.skipped = log.countP Call.isSkip) ∧
      (Document.load stubborn text .empty).1 = .ok (0, ⟨2, 0, 2⟩) := by
  intro program text
  have read : Document.parse text = .ok (.program program) := by decide +kernel
  obtain ⟨-, goesOn, -, -⟩ := Document.load_all_or_nothing stubborn text .empty
  exact ⟨read, rfl, goesOn program 0 _ read rfl, by decide +kernel⟩

end Marquee
