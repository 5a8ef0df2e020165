/-!
# Tables

A table holds at most one value under each name. Names stay in the order in which they were first
set; setting one again replaces its value in place.
-/

namespace Marquee

/-- Values under names. -/
structure Table (α : Type) where
  entries : List (String × α)
  deriving DecidableEq, Repr

namespace Table

variable {α : Type}

instance : Inhabited (Table α) :=
  ⟨⟨[]⟩⟩

def empty : Table α :=
  ⟨[]⟩

/-- The value under a name in a list of entries. -/
def findEntry (name : String) : List (String × α) → Option α
  | [] => none
  | (other, value) :: rest => if other = name then some value else findEntry name rest

def get? (table : Table α) (name : String) : Option α :=
  findEntry name table.entries

/-- Replaces the value under a name in a list of entries, or adds it at the end. -/
def setEntry (name : String) (value : α) : List (String × α) → List (String × α)
  | [] => [(name, value)]
  | (other, old) :: rest =>
    if other = name then (name, value) :: rest else (other, old) :: setEntry name value rest

def set (table : Table α) (name : String) (value : α) : Table α :=
  ⟨setEntry name value table.entries⟩

/-- Keeps the entries whose value passes a test. -/
def keep (test : α → Bool) (table : Table α) : Table α :=
  ⟨table.entries.filter fun entry => test entry.2⟩

def names (table : Table α) : List String :=
  table.entries.map Prod.fst

def size (table : Table α) : Nat :=
  table.entries.length

@[simp] theorem get?_empty (name : String) : (empty : Table α).get? name = none := rfl

theorem findEntry_setEntry (entries : List (String × α)) (name other : String) (value : α) :
    findEntry other (setEntry name value entries) =
      if other = name then some value else findEntry other entries := by
  induction entries with
  | nil =>
    by_cases equal : other = name
    · simp [setEntry, findEntry, equal]
    · simp [setEntry, findEntry, equal, Ne.symm equal]
  | cons entry rest inductionHypothesis =>
    obtain ⟨first, old⟩ := entry
    by_cases head : first = name
    · subst head
      by_cases equal : other = first
      · simp [setEntry, findEntry, equal]
      · simp [setEntry, findEntry, equal, Ne.symm equal]
    · by_cases same : first = other
      · subst same
        simp [setEntry, findEntry, head]
      · simp [setEntry, findEntry, head, same, inductionHypothesis]

/-- What was set is found, and nothing else changes. -/
theorem get?_set (table : Table α) (name other : String) (value : α) :
    (table.set name value).get? other =
      if other = name then some value else table.get? other :=
  findEntry_setEntry table.entries name other value

def Distinct (table : Table α) : Prop :=
  table.names.Nodup

theorem distinct_empty : (empty : Table α).Distinct :=
  List.nodup_nil

theorem mem_names_setEntry (entries : List (String × α)) (name other : String) (value : α) :
    other ∈ (setEntry name value entries).map Prod.fst ↔
      other = name ∨ other ∈ entries.map Prod.fst := by
  induction entries with
  | nil => simp [setEntry]
  | cons entry rest inductionHypothesis =>
    obtain ⟨first, old⟩ := entry
    by_cases head : first = name
    · subst head
      simp [setEntry]
    · simp only [setEntry, head, if_false, List.map_cons, List.mem_cons, inductionHypothesis]
      exact or_left_comm

theorem mem_names_set (table : Table α) (name other : String) (value : α) :
    other ∈ (table.set name value).names ↔ other = name ∨ other ∈ table.names :=
  mem_names_setEntry table.entries name other value

theorem nodup_names_setEntry {entries : List (String × α)} (name : String) (value : α)
    (distinct : (entries.map Prod.fst).Nodup) :
    ((setEntry name value entries).map Prod.fst).Nodup := by
  induction entries with
  | nil => simp [setEntry]
  | cons entry rest inductionHypothesis =>
    obtain ⟨first, old⟩ := entry
    obtain ⟨fresh, restDistinct⟩ := List.nodup_cons.mp distinct
    by_cases head : first = name
    · subst head
      simpa [setEntry] using distinct
    · have absent : first ∉ (setEntry name value rest).map Prod.fst := by
        rw [mem_names_setEntry]
        rintro (same | member)
        · exact head same
        · exact fresh member
      simp only [setEntry, head, if_false, List.map_cons]
      exact List.nodup_cons.mpr ⟨absent, inductionHypothesis restDistinct⟩

theorem distinct_set {table : Table α} (name : String) (value : α) (distinct : table.Distinct) :
    (table.set name value).Distinct :=
  nodup_names_setEntry name value distinct

theorem distinct_keep {table : Table α} (test : α → Bool) (distinct : table.Distinct) :
    (table.keep test).Distinct :=
  distinct.sublist (List.filter_sublist.map Prod.fst)

theorem findEntry_eq_none {entries : List (String × α)} {name : String}
    (absent : name ∉ entries.map Prod.fst) :
    findEntry name entries = none := by
  induction entries with
  | nil => rfl
  | cons entry rest inductionHypothesis =>
    obtain ⟨first, value⟩ := entry
    simp only [List.map_cons, List.mem_cons, not_or] at absent
    rw [findEntry, if_neg (Ne.symm absent.1)]
    exact inductionHypothesis absent.2

/-- Without repeated names, filtering the entries filters what is found. -/
theorem get?_keep {table : Table α} (test : α → Bool) (distinct : table.Distinct)
    (name : String) :
    (table.keep test).get? name = (table.get? name).filter test := by
  obtain ⟨entries⟩ := table
  simp only [get?, keep]
  induction entries with
  | nil => rfl
  | cons entry rest inductionHypothesis =>
    obtain ⟨first, value⟩ := entry
    obtain ⟨fresh, restDistinct⟩ := List.nodup_cons.mp distinct
    have ofRest := inductionHypothesis restDistinct
    by_cases head : first = name
    · subst head
      by_cases kept : test value
      · simp [findEntry, kept, Option.filter]
      · have absent : findEntry first rest = none := findEntry_eq_none fresh
        simp [findEntry, kept, ofRest, absent, Option.filter]
    · by_cases kept : test value
      · simpa [findEntry, head, kept] using ofRest
      · simpa [findEntry, head, kept] using ofRest

end Table

end Marquee
