import Marquee.Command.Perform
import Marquee.Proofs.Document.RoundTrip
import Marquee.Proofs.Editor.Clean
import Marquee.Proofs.Editor.Marking
import Marquee.Proofs.Editor.Reload

/-!
# Canonical documents

The canonical form of a document is what an editor saves after loading it. The ids in it are those
of the editor, which counts the blocks that it makes, also those that are not saved. So the
canonical form of a canonical document is the same but for the ids, and they are numbered in
reading order then; after that nothing changes any more.
-/

namespace Marquee

open Workspace Loading

theorem Program.size_stripIds (program : Program) : program.stripIds.size = program.size := by
  rw [Program.size_eq, Program.size_eq, Program.stripIds, Statement.kinds, Statement.kinds,
    Chain.kinds_stripIds, Chain.kinds_stripIds]

/-- A program that fits makes a workspace in which its blocks are in reading order. -/
theorem Program.exists_ordered {program : Program} (placed : program.actions.Placed)
    (distinct : (program.id.toList ++ program.actions.ids).Nodup) :
    ∃ after, program.load sink .empty =
        (.ok (0, ⟨program.actions.kinds.length + 1, 0, 0⟩), after) ∧
      after.blocks.size = program.actions.kinds.length + 1 ∧ after.Ordered := by
  obtain ⟨built, head, loaded, lays⟩ := program.lays_actions placed distinct 0
  have consecutive := program.consecutive_load placed distinct 0
  have none : empty.blocks = #[] := rfl
  have grown := program.keeps_load (sink_keeps grown_change) empty (grown_of_no_blocks none)
  have begins : built.editor.source.start? = some 0 := start?_source lays.looks lays.hangs rfl
  have size : built.editor.blocks.size = program.actions.kinds.length + 1 := by
    rw [lays.size, Nat.add_comm 1]
    exact Nat.zero_add _
  have report : built.report = ⟨program.actions.kinds.length + 1, 0, 0⟩ := by
    rw [lays.report, Nat.add_comm 1]
    simp [Loading.start]
  have same : program.load sink .empty =
      (.ok (0, ⟨program.actions.kinds.length + 1, 0, 0⟩), built.editor) := by
    rw [← report]
    exact loaded
  rw [loaded, ← size] at consecutive
  rw [same] at grown
  exact ⟨built.editor, same, size, grown, begins, consecutive⟩

/-- What a load without any trouble makes of a program is numbered, if no default stands in it. -/
theorem Program.numbered_of_load {program saved : Program} {after : Workspace}
    {root created : Nat}
    (loaded : program.load sink .empty = (.ok (root, ⟨created, 0, 0⟩), after))
    (saves : after.save = .program saved) (size : saved.size = created) :
    saved.numbered = saved := by
  obtain ⟨placed, distinct⟩ := program.placed_of_load loaded
  obtain ⟨built, same, blocks, ordered⟩ := program.exists_ordered placed distinct
  cases same.symm.trans loaded
  exact ordered.numbered_save saves (size.trans blocks.symm)

/-- A program that an editor has saved comes back from an editor with its ids numbered. -/
theorem Program.save_load_saved {program : Program} (editable : program.Editable)
    (normal : program.normal = program) :
    (program.load sink .empty).2.save = .program program.numbered := by
  have distinct := editable.distinct
  rw [Program.ids, editable.alone, Chain.ids, List.append_nil] at distinct
  obtain ⟨after, saved, loaded, built⟩ := Program.exists_builtAs editable.placed distinct 0
  have same := built.stripIds editable.inRange editable.alone
  rw [normal] at same
  have size : saved.size = 1 + program.actions.kinds.length := by
    rw [← saved.size_stripIds, same, program.size_stripIds, program.size_eq, editable.alone,
      Statement.kinds, List.length_cons, Nat.add_comm 1]
    rfl
  have numbered := Program.numbered_of_load loaded built.save size
  have load : (program.load sink .empty).2 = after := congrArg Prod.snd loaded
  rw [load, built.save, ← Program.numbered_congr same, numbered]

private theorem Workspace.reason_of_save {workspace : Workspace} {reason : String}
    (saved : workspace.save = .noProgram reason) : reason = noStartBlock := by
  rw [save, Source.save] at saved
  split at saved
  · cases saved
  · exact (Document.noProgram.inj saved).symm

/-- The canonical form of a canonical document is its numbered form. -/
theorem Document.canonical_canonical (document : Document) :
    document.canonical.canonical = document.canonical.numbered := by
  cases document with
  | noProgram reason => rfl
  | program content =>
      have none : empty.blocks = #[] := rfl
      have grown := content.keeps_load (sink_keeps grown_change) empty (grown_of_no_blocks none)
      rw [Document.canonical]
      cases saved : (content.load sink .empty).2.save with
      | program again =>
          obtain ⟨editable, normal⟩ := editable_save grown saved
          exact again.save_load_saved editable normal
      | noProgram reason =>
          rw [reason_of_save saved]
          rfl

theorem Document.numbered_numbered (document : Document) :
    document.numbered.numbered = document.numbered := by
  cases document with
  | noProgram reason => rfl
  | program content =>
      exact congrArg Document.program (Program.numbered_congr content.stripIds_numbered)

theorem Document.stripIds_numbered (document : Document) :
    document.numbered.stripIds = document.stripIds := by
  cases document with
  | noProgram reason => rfl
  | program content => exact congrArg Document.program content.stripIds_numbered

/-- What the format command makes of a text. -/
def formatted? (text : String) : Option String :=
  (Document.parse text).toOption.map fun document => document.canonical.pretty ++ "\n"

theorem Command.performFormat_eq (view : FileView) (input : String) (output : Option String) :
    performFormat view input false output =
      ((view.text? input).bind formatted?).map fun text =>
        match output with
        | some path => .write path text
        | none => .print text := by
  rw [performFormat, FileView.document?]
  cases view.text? input with
  | none => rfl
  | some text =>
      simp only [Option.bind_eq_bind, Option.bind_some, formatted?]
      cases (Document.parse text).toOption with
      | none => rfl
      | some document => cases output <;> rfl

private theorem Document.parse_line (document : Document) :
    Document.parse (document.pretty ++ "\n") = .ok document := by
  rw [parse, Document.pretty, Json.parse_pretty_line document.integral_toJson]
  exact document.ofJson_sorted

private theorem Document.eq_of_line {first second : Document}
    (same : first.pretty ++ "\n" = second.pretty ++ "\n") : first = second := by
  have read := first.parse_line
  rw [same, second.parse_line] at read
  exact (Except.ok.inj read).symm

private theorem formatted?_pretty (document : Document) :
    formatted? (document.pretty ++ "\n") = some (document.canonical.pretty ++ "\n") := by
  rw [formatted?, document.parse_line]
  rfl

private theorem Document.numbered_canonical_of_load {program saved : Program} {root created : Nat}
    (loaded : (program.load sink .empty).1 = .ok (root, ⟨created, 0, 0⟩))
    (saves : (Document.program program).canonical = .program saved) (size : saved.size = created) :
    (Document.program program).canonical.numbered = (Document.program program).canonical := by
  have whole : program.load sink .empty =
      (.ok (root, ⟨created, 0, 0⟩), (program.load sink .empty).2) := by
    rw [← loaded]
  rw [saves, numbered, Program.numbered_of_load whole saves size]

/-- A text that can be formatted, and what becomes of the text that comes out when that is formatted
again: the ids in it are numbered in reading order, nothing else changes, and formatting it once
more changes nothing at all. So the first text stays as it is exactly if its ids are numbered
already, which they are if the load made as many blocks as are in the text, and found none again
and skipped none. The text without a program stays as it is. -/
theorem formatted_again {text first : String} (formats : formatted? text = some first) :
    ∃ document second, Document.parse text = .ok document ∧
      first = document.canonical.pretty ++ "\n" ∧
      second = document.canonical.numbered.pretty ++ "\n" ∧
      formatted? first = some second ∧ formatted? second = some second ∧
      document.canonical.numbered.stripIds = document.canonical.stripIds ∧
      (formatted? first = some first ↔ document.canonical.numbered = document.canonical) ∧
      (∀ content saved root created, document = .program content →
        (content.load sink Workspace.empty).1 = .ok (root, ⟨created, 0, 0⟩) →
        document.canonical = .program saved → saved.size = created →
        formatted? first = some first) ∧
      ∀ reason, document = .noProgram reason →
        first = (Document.noProgram noStartBlock).pretty ++ "\n" ∧
          formatted? first = some first := by
  obtain ⟨document, parsed, rfl⟩ := Option.map_eq_some_iff.mp formats
  have read : Document.parse text = .ok document := by
    cases answer : Document.parse text with
    | error error =>
        rw [answer] at parsed
        cases parsed
    | ok other =>
        rw [answer] at parsed
        exact congrArg Except.ok (Option.some.inj parsed)
  have second := formatted?_pretty document.canonical
  have third := formatted?_pretty document.canonical.canonical
  rw [document.canonical.canonical_canonical, document.canonical_canonical,
    document.canonical.numbered_numbered] at third
  rw [document.canonical_canonical] at second
  have fixed : formatted? (document.canonical.pretty ++ "\n") =
        some (document.canonical.pretty ++ "\n") ↔
      document.canonical.numbered = document.canonical := by
    rw [second, Option.some_inj]
    exact ⟨Document.eq_of_line, fun same => by rw [same]⟩
  refine ⟨document, _, read, rfl, rfl, second, third, document.canonical.stripIds_numbered, fixed,
    ?_, ?_⟩
  · rintro content saved root created rfl loaded saves size
    exact fixed.mpr (Document.numbered_canonical_of_load loaded saves size)
  · rintro reason rfl
    exact ⟨rfl, fixed.mpr rfl⟩

/-- A text in which nothing is left out. The literal counts as a block. -/
def resting : String :=
  "\x7b\"type\": \"start\", \"actions\": [\x7b\"type\": \"wait\", \"time\": 5, \"next\": " ++
    "\x7b\"type\": \"break\"\x7d\x7d]\x7d"

def rested : Program where
  id := some "b1"
  actions := .link (some "b2") (.wait (.number 5)) (.link (some "b4") .breakLoop .nil)
  next := .nil

theorem formatted_again_resting :
    formatted? resting = some ((Document.program rested).pretty ++ "\n") ∧
      formatted? ((Document.program rested).pretty ++ "\n") =
        some ((Document.program rested).pretty ++ "\n") := by
  have parsed : Document.parse resting = .ok (.program (.ofActions
      (.link none (.wait (.number 5)) (.link none .breakLoop .nil)))) := by
    decide +kernel
  have formats : formatted? resting = some ((Document.program rested).pretty ++ "\n") := by
    rw [formatted?, parsed]
    rfl
  obtain ⟨document, second, read, first, _, _, _, _, _, clean, _⟩ := formatted_again formats
  cases parsed.symm.trans read
  exact ⟨formats, clean _ rested 0 4 rfl (by decide) (Document.eq_of_line first).symm rfl⟩

/-- A text in which the time of a wait is left out. -/
def napping : String :=
  "\x7b\"type\": \"start\", \"actions\": [\x7b\"type\": \"wait\", \"next\": " ++
    "\x7b\"type\": \"break\"\x7d\x7d]\x7d"

def napped : Program where
  id := some "b1"
  actions := .link (some "b2") (.wait (.number 0)) (.link (some "b3") .breakLoop .nil)
  next := .nil

/-- The time is written as a literal, which becomes a block when the text is loaded again. -/
theorem renumbered_napping :
    formatted? napping = some ((Document.program napped).pretty ++ "\n") ∧
      formatted? ((Document.program napped).pretty ++ "\n") ≠
        some ((Document.program napped).pretty ++ "\n") := by
  have parsed : Document.parse napping = .ok (.program (.ofActions
      (.link none (.wait .empty) (.link none .breakLoop .nil)))) := by
    decide +kernel
  refine ⟨?_, fun same => ?_⟩
  · rw [formatted?, parsed]
    rfl
  · rw [formatted?_pretty, Option.some_inj] at same
    have counted : (Document.program napped).canonical ≠ .program napped := by decide
    exact counted (Document.eq_of_line same)

end Marquee
