import Marquee.Proofs.Document.RoundTrip
import Marquee.Proofs.Editor.Forest
import Marquee.Proofs.Editor.RoundTrip
import Marquee.Proofs.Editor.Saving

/-!
# Workspaces come back from their text

Whatever was done to a workspace, the text of the program that is saved of it is loaded completely
into an empty workspace, and saving that one gives the same program, but for the ids.
-/

namespace Marquee

open Workspace Loading

/-- A load that built a program completely, what was saved then, and from what depth. -/
structure Program.BuiltAs (program : Program) (after : Workspace) (saved : Program) : Prop where
  save : after.save = .program saved
  alone : saved.next = .nil
  shown : ∃ head, saved.actions = after.source.saveChain after.source.height head ∧
    program.actions.Shown after.source head
  enough : program.actions.kinds.length ≤ after.source.height

/-- A program whose actions fit is built completely in an empty workspace, if its ids are
different. -/
theorem Program.exists_builtAs {program : Program} (placed : program.actions.Placed)
    (distinct : (program.id.toList ++ program.actions.ids).Nodup) (ids : Nat) :
    ∃ after saved,
      program.load sink ⟨#[], ids⟩ =
        (.ok (0, ⟨1 + program.actions.kinds.length, 0, 0⟩), after) ∧
      program.BuiltAs after saved := by
  obtain ⟨built, head, loaded, lays⟩ := program.lays_actions placed distinct ids
  have report : built.report = ⟨1 + program.actions.kinds.length, 0, 0⟩ := by
    rw [lays.report]
    simp [Loading.start]
  have hasDo : "DO" ∈ Kind.start.statementSockets := by decide
  have socket : built.editor.source.statement 0 "DO" = head := lays.looks.source_statement hasDo
  have size : built.editor.source.height = 0 + (1 + program.actions.kinds.length) := lays.size
  refine ⟨built.editor, built.editor.source.saveProgram 0, ?_, ?_, rfl, ⟨head, ?_, ?_⟩, by omega⟩
  · rw [loaded, report]
  · rw [Workspace.save, Source.save, start?_source lays.looks lays.hangs rfl]
  · rw [Source.saveProgram, socket]
  · exact lays.inner (Agrees.refl _ _)

theorem Program.BuiltAs.stripIds {program saved : Program} {after : Workspace}
    (built : program.BuiltAs after saved) (inRange : program.actions.InRange)
    (alone : program.next = .nil) : saved.stripIds = program.normal.stripIds := by
  obtain ⟨head, actions, shown⟩ := built.shown
  have same := after.source.saveChain_of_shown program.actions shown inRange built.enough
  rw [Program.stripIds, built.alone, actions, same, Program.normal, alone]
  rfl

private theorem Document.load_of_written {σ β : Type} (sink : Sink σ β) {text : String}
    {content : Program}
    (written : text = (Document.program content).compact ∨
      text = (Document.program content).pretty) (editor : σ) :
    Document.load sink text editor = content.load sink editor := by
  have integral := (Document.program content).integral_toJson
  have parsed : Document.parse text = .ok (.program content) := by
    rcases written with rfl | rfl
    · rw [Document.parse, Document.compact, Json.parse_compact integral]
      exact Document.ofJson_sorted _
    · rw [Document.parse, Document.pretty, Json.parse_pretty integral]
      exact Document.ofJson_sorted _
  rw [Document.load, parsed]
  rfl

/-- The program that is saved after any work on a new workspace, written as a text in either layout,
is loaded completely into an empty workspace, and is saved then as it was, but for the ids. -/
theorem Workspace.save_reload {edits : List Edit} {content : Program} {text : String}
    (saved : (empty.edited edits).save = .program content)
    (written : text = (Document.program content).compact ∨
      text = (Document.program content).pretty) (ids : Nat) :
    let loaded := Document.load sink text ⟨#[], ids⟩
    loaded.1 = .ok (0, ⟨content.size, 0, 0⟩) ∧
      ∃ again, loaded.2.save = .program again ∧ again.stripIds = content.stripIds := by
  have none : empty.blocks = #[] := rfl
  have new : empty.Grown 0 := grown_of_no_blocks none
  obtain ⟨base, grown⟩ := exists_grown_edited new edits
  obtain ⟨editable, normal⟩ := editable_save grown saved
  have distinct := editable.distinct
  rw [Program.ids, editable.alone, Chain.ids, List.append_nil] at distinct
  obtain ⟨after, again, loaded, built⟩ := Program.exists_builtAs editable.placed distinct ids
  have size : 1 + content.actions.kinds.length = content.size := by
    rw [Program.size, Node.kinds, Program.root, editable.alone, Statement.kinds, Chain.kinds,
      List.append_nil, List.length_cons, Nat.add_comm]
  have same := built.stripIds editable.inRange editable.alone
  rw [normal] at same
  rw [Document.load_of_written sink written, loaded, size]
  exact ⟨rfl, again, built.save, same⟩

/-- Work with readings of texts as numbers, a pin that does not exist, and a refused circle. -/
def tinkering : List Edit :=
  [.add .start, .add .wait, .add .number, .setField 2 "NUMBER" (.text " +12ms"),
    .connectValue 1 "TIME" 2, .connectStatement 0 "DO" 1, .add .gpio,
    .setField 3 "PIN" (.number 99), .setField 3 "STATE" (.text "UP"), .connectNext 1 3,
    .connectNext 3 1]

theorem save_reload_tinkering :
    ∃ content, (empty.edited tinkering).save = .program content ∧
      content = ⟨some "b1", .link (some "b2") (.wait (.number 12)) <|
        .link (some "b4") (.gpio 40 .high) .nil, .nil⟩ ∧
      let loaded := Document.load sink (Document.program content).pretty ⟨#[], 0⟩
      loaded.1 = .ok (0, ⟨4, 0, 0⟩) ∧
        ∃ again, loaded.2.save = .program again ∧ again.stripIds = content.stripIds := by
  have saved : (empty.edited tinkering).save = .program
      ⟨some "b1", .link (some "b2") (.wait (.number 12)) <|
        .link (some "b4") (.gpio 40 .high) .nil, .nil⟩ := by
    decide
  exact ⟨_, saved, rfl, Workspace.save_reload saved (Or.inr rfl) 0⟩

end Marquee
