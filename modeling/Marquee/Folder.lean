/-!
# Folders

Files and folders as a value, for looking things up by path and for putting files in place. A path
is a list of names between slashes; `.` stays where it is, and `..` goes back to the folder around.
-/

namespace Marquee

inductive Entry where
  | file (content : Array UInt8)
  | folder (entries : List (String × Entry))

abbrev Folder :=
  List (String × Entry)

namespace Entry

def empty : Entry :=
  folder []

instance : Inhabited Entry :=
  ⟨empty⟩

def pathParts (path : String) : List String :=
  path.splitOn "/"

/-- What a path leads to from an entry, given the folders around it, the innermost first. Each name
but the last must be that of a folder. -/
def walk : List Entry → Entry → List String → Option Entry
  | _, here, [] => some here
  | _, .file _, _ :: _ => none
  | around, .folder entries, part :: parts =>
    if part = "" ∨ part = "." then walk around (.folder entries) parts
    else if part = ".." then
      match around with
      | [] => walk [] (.folder entries) parts
      | outer :: rest => walk rest outer parts
    else
      match entries.lookup part with
      | some entry => walk (.folder entries :: around) entry parts
      | none => none

def at? (root : Entry) (path : String) : Option Entry :=
  if path.startsWith "/" then none else walk [] root (pathParts path)

def file? (root : Entry) (path : String) : Option (Array UInt8) :=
  match root.at? path with
  | some (.file content) => some content
  | _ => none

def folder? (root : Entry) (path : String) : Option Folder :=
  match root.at? path with
  | some (.folder entries) => some entries
  | _ => none

/-- Replaces the entry under a name, or adds it at the end. -/
def putEntry (name : String) (entry : Entry) : Folder → Folder
  | [] => [(name, entry)]
  | (other, old) :: rest =>
    if other = name then (name, entry) :: rest else (other, old) :: putEntry name entry rest

/-- Drops the names of a path that lead nowhere, and those that `..` takes back. -/
def plainParts (path : String) : List String :=
  let step (kept : List String) (part : String) : List String :=
    if part = "" ∨ part = "." then kept else if part = ".." then kept.tail else part :: kept
  ((pathParts path).foldl step []).reverse

/-- Puts an entry in place. Missing folders on the way are made if asked for. A file cannot take
the place of a folder, and nothing can be put into a file. -/
def putAt (makeFolders : Bool) (entry : Entry) : List String → Entry → Option Entry
  | [], .folder entries =>
    match entry with
    | .folder _ => some (.folder entries)
    | .file _ => none
  | [], .file _ => some entry
  | _ :: _, .file _ => none
  | name :: rest, .folder entries =>
    match entries.lookup name with
    | some old =>
      (putAt makeFolders entry rest old).map fun new => .folder (putEntry name new entries)
    | none =>
      if rest.isEmpty then some (.folder (putEntry name entry entries))
      else if makeFolders then
        (putAt makeFolders entry rest empty).map fun new => .folder (putEntry name new entries)
      else none

def isFolderPath (path : String) : Bool :=
  match (pathParts path).getLast? with
  | some last => ["", ".", ".."].contains last
  | none => true

/-- Puts an entry at a path. A file needs a name of its own there. -/
def put (makeFolders : Bool) (root : Entry) (path : String) (entry : Entry) : Option Entry :=
  match entry with
  | .file _ =>
    if isFolderPath path then none else putAt makeFolders entry (plainParts path) root
  | .folder _ => putAt makeFolders entry (plainParts path) root

end Entry

end Marquee
