import Marquee.Editor.Source

/-!
# Listed editors

An editor given as a list of what it answers. Nothing holds the answers to the rules of a
workspace: kinds may be unknown, sockets of any name may be taken, and a block may be plugged in
more than once.
-/

namespace Marquee

/-- What is listed for a block. -/
structure ListedBlock where
  kindName : Option String
  id : Option String
  fields : Table FieldValue
  statements : Table Nat
  values : Table Nat
  next : Option Nat
  deriving DecidableEq, Inhabited

/-- A list of blocks, and which of them hang on nothing. -/
structure Listing where
  blocks : Array ListedBlock
  tops : List Nat
  deriving DecidableEq, Inhabited

namespace Listing

/-- What is listed under a handle, looked at in one way. -/
def look {α : Type} (listing : Listing) (view : ListedBlock → Option α) (handle : Nat) :
    Option α :=
  listing.blocks[handle]?.bind view

/-- The listing as an editor to look into. -/
def source (listing : Listing) : Source Nat where
  tops := listing.tops
  kindName := listing.look ListedBlock.kindName
  id := listing.look ListedBlock.id
  field handle name := listing.look (fun block => block.fields.get? name) handle
  statement handle socket := listing.look (fun block => block.statements.get? socket) handle
  value handle socket := listing.look (fun block => block.values.get? socket) handle
  next := listing.look ListedBlock.next
  height := listing.blocks.size + 1

end Listing

end Marquee
