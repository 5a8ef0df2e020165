import Marquee.Json.Reader
import Marquee.Proofs.Json.Scanning

/-!
# Written values are read back

A reader keeps the members of an object in the order of their keys. So what it makes of the text of
a value, in either layout, is the value with all its members sorted.
-/

namespace Marquee.Json

mutual

def sorted : Json → Json
  | .null => .null
  | .bool value => .bool value
  | .number value => .number value
  | .string text => .string text
  | .array items => .array items.sorted
  | .object members => .object (members.sortInto .nil)

def Items.sorted : Items → Items
  | .nil => .nil
  | .cons head tail => .cons head.sorted tail.sorted

/-- Sorts members into those that are sorted already. -/
def Members.sortInto : Members → Members → Members
  | .nil, done => done
  | .cons key value rest, done => rest.sortInto (done.insert key value.sorted)

end

namespace Reader

private theorem foldlM_cons {state after : Reader} {token : Token}
    (taken : step state token = .ok after)
    (rest : List Token) : (token :: rest).foldlM step state = rest.foldlM step after := by
  rw [List.foldlM_cons, taken]
  rfl

/-- After an opening bracket a value is read as the first item. -/
theorem foldlM_firstItem (value : Json) (outer : List Open) (rest : List Token) :
    (value.tokens rest).foldlM step (.firstItem outer) =
      (value.tokens rest).foldlM step (.value (.array [] :: outer)) := by
  match value with
  | .null => rfl
  | .bool _ => rfl
  | .number _ => rfl
  | .string _ => rfl
  | .array .nil => rfl
  | .array (.cons _ _) => rfl
  | .object .nil => rfl
  | .object (.cons _ _ _) => rfl

mutual

theorem foldlM_value (value : Json) (outer : List Open) (rest : List Token) :
    (value.tokens rest).foldlM step (.value outer) =
      rest.foldlM step (.after value.sorted outer) := by
  match value with
  | .null => exact foldlM_cons rfl rest
  | .bool _ => exact foldlM_cons rfl rest
  | .number _ => exact foldlM_cons rfl rest
  | .string _ => exact foldlM_cons rfl rest
  | .array .nil =>
      rw [tokens, foldlM_cons rfl]
      exact foldlM_cons rfl rest
  | .array (.cons head tail) =>
      have items : Items.ofList ([head.sorted] ++ tail.sorted.toList) =
          .cons head.sorted tail.sorted := by
        rw [List.singleton_append, Items.ofList, Items.ofList_toList]
      rw [tokens, foldlM_cons rfl, foldlM_firstItem, foldlM_value head, foldlM_items tail,
        List.reverse_singleton, items]
      rfl
  | .object .nil =>
      rw [tokens, foldlM_cons rfl]
      exact foldlM_cons rfl rest
  | .object (.cons name first members) =>
      rw [tokens, foldlM_cons rfl, foldlM_cons rfl, foldlM_cons rfl, foldlM_value first,
        foldlM_members members]
      rfl

theorem foldlM_items (items : Items) (read : Json) (done : List Json) (outer : List Open)
    (rest : List Token) :
    (items.tokens (.closeArray :: rest)).foldlM step (.after read (.array done :: outer)) =
      rest.foldlM step
        (.after (.array (.ofList ((read :: done).reverse ++ items.sorted.toList))) outer) := by
  match items with
  | .nil =>
      rw [Items.tokens, Items.sorted, Items.toList, List.append_nil]
      exact foldlM_cons rfl rest
  | .cons head tail =>
      rw [Items.tokens, foldlM_cons rfl, foldlM_value head, foldlM_items tail, Items.sorted,
        Items.toList, List.reverse_cons, List.append_assoc]
      rfl

theorem foldlM_members (members : Members) (read : Json) (done : Members) (key : String)
    (outer : List Open) (rest : List Token) :
    (members.tokens (.closeObject :: rest)).foldlM step (.after read (.object done key :: outer)) =
      rest.foldlM step
        (.after (.object (members.sortInto (done.insert key read))) outer) := by
  match members with
  | .nil => exact foldlM_cons rfl rest
  | .cons name first members =>
      rw [Members.tokens, foldlM_cons rfl, foldlM_cons rfl, foldlM_cons rfl, foldlM_value first,
        foldlM_members members]
      rfl

end

end Reader

theorem ofTokens_tokens (value : Json) : ofTokens (value.tokens []) = .ok value.sorted := by
  rw [ofTokens, Reader.foldlM_value]
  rfl

theorem parse_compact {value : Json} (integral : value.Integral) :
    parse value.compact = .ok value.sorted := by
  rw [parse, compact, String.toList_ofList, scan_write value integral closed_nil, Token.scan,
    ofTokens_tokens]

theorem parse_pretty {value : Json} (integral : value.Integral) :
    parse value.pretty = .ok value.sorted := by
  rw [parse, pretty, String.toList_ofList, scan_writeIndented value integral 0 closed_nil,
    Token.scan, ofTokens_tokens]

/-- A line break at the end of a text is passed over. -/
theorem parse_pretty_line {value : Json} (integral : value.Integral) :
    parse (value.pretty ++ "\n") = .ok value.sorted := by
  have letters : (value.pretty ++ "\n").toList = value.writeIndented 0 ['\n'] := by
    rw [String.toList_append, pretty, String.toList_ofList]
    exact value.writeIndented_append 0 [] ['\n']
  have ending : Token.scan ['\n'] = [] := by
    simp [Token.scan, Token.isSpace]
  rw [parse, letters, scan_writeIndented value integral 0 (closed_cons [] (by decide)), ending,
    ofTokens_tokens]

namespace Members

def keys : Members → List String
  | nil => []
  | cons key _ rest => key :: rest.keys

theorem get?_insert (members : Members) (name other : String) (value : Json) :
    (members.insert name value).get? other =
      if name = other then some value else members.get? other := by
  match members with
  | nil => rfl
  | cons key old rest =>
      rw [insert]
      split
      · next same =>
          subst same
          by_cases found : name = other
          · simp [get?, found]
          · simp [get?, found]
      · next different =>
          split
          · rfl
          · rw [get?, get?, get?_insert rest]
            by_cases found : key = other
            · subst found
              simp [different]
            · simp [found]

theorem get?_eq_none {members : Members} {name : String} (absent : name ∉ members.keys) :
    members.get? name = none := by
  match members with
  | nil => rfl
  | cons key value rest =>
      rw [keys, List.mem_cons, not_or] at absent
      rw [get?, if_neg (Ne.symm absent.1), get?_eq_none absent.2]

/-- Without repeated keys, every value is found as itself again. -/
theorem get?_sortInto (members done : Members) (distinct : members.keys.Nodup) (name : String) :
    (members.sortInto done).get? name =
      ((members.get? name).map sorted).or (done.get? name) := by
  match members with
  | nil => rfl
  | cons key value rest =>
      obtain ⟨fresh, restDistinct⟩ := List.nodup_cons.mp distinct
      rw [sortInto, get?_sortInto rest _ restDistinct, get?_insert, get?]
      by_cases same : key = name
      · subst same
        rw [if_pos rfl, if_pos rfl, get?_eq_none fresh]
        rfl
      · rw [if_neg same, if_neg same]

theorem mem_toList_insert {members : Members} {name : String} {value : Json}
    {entry : String × Json} (member : entry ∈ (members.insert name value).toList) :
    entry = (name, value) ∨ entry ∈ members.toList := by
  match members with
  | nil => exact Or.inl (List.mem_singleton.mp member)
  | cons key old rest =>
      rw [insert] at member
      split at member
      · rcases List.mem_cons.mp member with here | later
        · exact Or.inl here
        · exact Or.inr (List.mem_cons_of_mem _ later)
      · split at member
        · exact List.mem_cons.mp member
        · rcases List.mem_cons.mp member with here | later
          · exact Or.inr (here ▸ List.mem_cons_self)
          · rcases mem_toList_insert later with new | old
            · exact Or.inl new
            · exact Or.inr (List.mem_cons_of_mem _ old)

theorem mem_toList_sortInto {members done : Members} {name : String} {value : Json}
    (member : (name, value) ∈ (members.sortInto done).toList) :
    (name, value) ∈ done.toList ∨
      ∃ original, (name, original) ∈ members.toList ∧ value = original.sorted := by
  match members with
  | nil => exact Or.inl member
  | cons key first rest =>
      rw [sortInto] at member
      rcases mem_toList_sortInto member with early | ⟨original, later, same⟩
      · rcases mem_toList_insert early with here | old
        · cases here
          exact Or.inr ⟨first, List.mem_cons_self, rfl⟩
        · exact Or.inl old
      · exact Or.inr ⟨original, List.mem_cons_of_mem _ later, same⟩

end Members

end Marquee.Json
