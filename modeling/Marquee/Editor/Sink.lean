import Marquee.Editor.FieldValue
import Marquee.Editor.Refusal

/-!
# Building in an editor

A sink is an editor that blocks are built in: it makes blocks, sets their fields and connects them,
and may refuse any of it. Its blocks are known by handles only.
-/

namespace Marquee

/-- What can be asked of an editor with states `σ` and handles `β`. Every request gives the state
after it, also when it is refused. -/
structure Sink (σ β : Type) where
  /-- Makes a block of a kind. -/
  allocate : Kind → σ → Except Refusal β × σ
  /-- Sets a field of a block. -/
  setField : β → String → FieldValue → σ → Except Refusal Unit × σ
  /-- Plugs a statement into a socket of a block. -/
  connectStatement : β → String → β → σ → Except Refusal Unit × σ
  /-- Plugs a value into a socket of a block. -/
  connectValue : β → String → β → σ → Except Refusal Unit × σ
  /-- Makes a statement follow another. -/
  connectNext : β → β → σ → Except Refusal Unit × σ

end Marquee
