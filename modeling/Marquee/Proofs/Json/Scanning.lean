import Marquee.Proofs.Json.Integers

/-!
# Written values are cut into their tokens

The tokens of a value are found again in its text, in the compact layout and in the indented one.
-/

namespace Marquee.Json

namespace Token

private theorem scanString_plain {c : Char} (noQuote : c ≠ '"') (noEscape : c ≠ '\\')
    (visible : ¬ c.toNat < 0x20) (cs : List Char) :
    scanString (c :: cs) = (scanString cs).map fun read => (c :: read.1, read.2) := by
  rw [scanString.eq_4 _ _ noQuote noEscape, if_neg visible]
  cases scanString cs <;> rfl

private theorem scanString_escape {cs rest : List Char} {c : Char}
    (escape : scanEscape cs = .ok (c, rest)) :
    scanString ('\\' :: cs) = (scanString rest).map fun read => (c :: read.1, read.2) := by
  rw [scanString]
  split
  · next reason fault =>
      rw [escape] at fault
      cases fault
  · next found after same =>
      rw [escape] at same
      cases same
      cases scanString rest <;> rfl

private theorem hexQuad?_of_lt :
    ∀ n < 32, Text.hexQuad? '0' '0' (Text.hexDigit (n / 16)) (Text.hexDigit (n % 16)) = some n := by
  decide

private theorem scanEscape_control {c : Char} (control : c.toNat < 0x20) (rest : List Char) :
    scanEscape ('u' :: '0' :: '0' :: Text.hexDigit (c.toNat / 16) ::
      Text.hexDigit (c.toNat % 16) :: rest) = .ok (c, rest) := by
  have noHigh : ¬(0xD800 ≤ c.toNat ∧ c.toNat ≤ 0xDBFF) := by omega
  have noLow : ¬(0xDC00 ≤ c.toNat ∧ c.toNat ≤ 0xDFFF) := by omega
  simp only [scanEscape, scanUnicode, scanQuad, hexQuad?_of_lt c.toNat control, noHigh, noLow,
    if_false, Char.ofNat_toNat]

/-- A written character is read back. -/
theorem scanString_writeChar (c : Char) (rest : List Char) :
    scanString (writeChar c ++ rest) =
      (scanString rest).map fun read => (c :: read.1, read.2) := by
  simp only [writeChar]
  split
  · next same => subst same; exact scanString_escape rfl
  split
  · next same => subst same; exact scanString_escape rfl
  split
  · next same => subst same; exact scanString_escape rfl
  split
  · next same => subst same; exact scanString_escape rfl
  split
  · next same => subst same; exact scanString_escape rfl
  split
  · next same => subst same; exact scanString_escape rfl
  split
  · next same => subst same; exact scanString_escape rfl
  split
  · next control => exact scanString_escape (scanEscape_control control rest)
  · next noQuote noEscape _ _ _ _ _ visible =>
      exact scanString_plain noQuote noEscape visible rest

private theorem scanString_flatMap (cs rest : List Char) :
    scanString (cs.flatMap writeChar ++ '"' :: rest) = .ok (cs, rest) := by
  induction cs with
  | nil => rw [List.flatMap_nil, List.nil_append, scanString]
  | cons c cs inductionHypothesis =>
      rw [List.flatMap_cons, List.append_assoc, scanString_writeChar, inductionHypothesis]
      rfl

private theorem scan_cons {c : Char} (noSpace : isSpace c = false) (cs : List Char) :
    scan (c :: cs) = (next c cs).1 :: scan (next c cs).2 := by
  rw [scan, noSpace]
  rfl

private theorem scan_space {c : Char} (space : isSpace c = true) (cs : List Char) :
    scan (c :: cs) = scan cs := by
  rw [scan, space]
  rfl

private theorem scan_writeString (text : String) (rest : List Char) :
    scan (writeString text rest) = .string text :: scan rest := by
  rw [writeString, List.cons_append, scan_cons rfl]
  simp only [next, scanString_flatMap, String.ofList_toList]

private theorem next_number {c : Char} (begins : c = '-' ∨ Text.isDigit c = true)
    {cs rest : List Char} {value : Number} (scanned : scanNumber (c :: cs) = .ok (value, rest)) :
    next c cs = (.number value, rest) := by
  simp only [next]
  split
  case h_11 => rw [if_pos begins, scanned]
  all_goals exact absurd begins (by decide)

private theorem isSpace_of_number {c : Char} (begins : c = '-' ∨ Text.isDigit c = true) :
    isSpace c = false := by
  rw [Bool.eq_false_iff]
  intro space
  simp only [isSpace, Bool.or_eq_true, beq_iff_eq] at space
  rcases space with ((rfl | rfl) | rfl) | rfl <;> exact absurd begins (by decide)

private theorem exists_write_int_eq_cons (n : Int) :
    ∃ c cs, (Number.int n).write = c :: cs ∧ (c = '-' ∨ Text.isDigit c = true) := by
  rcases Int.lt_or_le n 0 with negative | nonnegative
  · obtain ⟨magnitude, rfl⟩ := Int.exists_eq_neg_ofNat (Int.le_of_lt negative)
    have positive : 0 < magnitude := by omega
    exact ⟨_, _, write_int_of_neg positive, Or.inl rfl⟩
  · obtain ⟨magnitude, rfl⟩ := Int.eq_ofNat_of_zero_le nonnegative
    rw [write_int_of_nonneg]
    cases digits : Nat.toDigits 10 magnitude with
    | nil => exact absurd digits Nat.toDigits_ne_nil
    | cons c cs =>
        exact ⟨c, cs, rfl, Or.inr (isDigit_of_mem_toDigits (digits ▸ List.mem_cons_self))⟩

private theorem scan_write_int {n : Int} (fits : Fits n) {rest : List Char} (closed : Closed rest) :
    scan ((Number.int n).write ++ rest) = .number (.int n) :: scan rest := by
  have scanned := scanNumber_write fits closed
  obtain ⟨c, cs, digits, begins⟩ := exists_write_int_eq_cons n
  rw [digits, List.cons_append] at scanned ⊢
  rw [scan_cons (isSpace_of_number begins), next_number begins scanned]

end Token

mutual

def tokens (rest : List Token) : Json → List Token
  | .null => .null :: rest
  | .bool value => .bool value :: rest
  | .number value => .number value :: rest
  | .string text => .string text :: rest
  | .array .nil => .openArray :: .closeArray :: rest
  | .array (.cons head tail) => .openArray :: head.tokens (tail.tokens (.closeArray :: rest))
  | .object .nil => .openObject :: .closeObject :: rest
  | .object (.cons key value members) =>
    .openObject :: .string key :: .colon ::
      value.tokens (members.tokens (.closeObject :: rest))

def Items.tokens (rest : List Token) : Items → List Token
  | .nil => rest
  | .cons head tail => .comma :: head.tokens (tail.tokens rest)

def Members.tokens (rest : List Token) : Members → List Token
  | .nil => rest
  | .cons key value members =>
    .comma :: .string key :: .colon :: value.tokens (members.tokens rest)

end

mutual

/-- All numbers are integers that a reader keeps as they are. -/
def Integral : Json → Prop
  | .number (.int n) => Fits n
  | .number (.float _) => False
  | .array items => items.Integral
  | .object members => members.Integral
  | _ => True

def Items.Integral : Items → Prop
  | .nil => True
  | .cons head tail => head.Integral ∧ tail.Integral

def Members.Integral : Members → Prop
  | .nil => True
  | .cons _ value rest => value.Integral ∧ rest.Integral

end

private theorem Items.closed_write (items : Items) {rest : List Char} (closed : Closed rest) :
    Closed (items.write rest) := by
  cases items with
  | nil => exact closed
  | cons head tail => exact closed_cons _ (by decide)

theorem Members.closed_write (members : Members) {rest : List Char} (closed : Closed rest) :
    Closed (members.write rest) := by
  cases members with
  | nil => exact closed
  | cons key value rest => exact closed_cons _ (by decide)

private theorem closed_bracket (rest : List Char) : Closed (']' :: rest) :=
  closed_cons rest (by decide)

private theorem closed_brace (rest : List Char) : Closed ('\x7d' :: rest) :=
  closed_cons rest (by decide)

open Token

mutual

theorem scan_write (value : Json) (integral : value.Integral) {rest : List Char}
    (closed : Closed rest) : scan (value.write rest) = value.tokens (scan rest) := by
  match value with
  | .null => exact scan_cons rfl _
  | .bool true => exact scan_cons rfl _
  | .bool false => exact scan_cons rfl _
  | .number (.int n) => exact scan_write_int integral closed
  | .string text => exact scan_writeString text rest
  | .array .nil => rw [write, scan_cons rfl, next, scan_cons rfl]; rfl
  | .array (.cons head tail) =>
      have after := tail.closed_write (closed_bracket rest)
      rw [write, scan_cons rfl, next, scan_write head integral.1 after,
        tail.scan_write integral.2 (closed_bracket rest), scan_cons rfl]
      rfl
  | .object .nil => rw [write, scan_cons rfl, next, scan_cons rfl]; rfl
  | .object (.cons key value members) =>
      have after := members.closed_write (closed_brace rest)
      rw [write, scan_cons rfl, next, scan_writeString, scan_cons rfl, next,
        scan_write value integral.1 after, members.scan_write integral.2 (closed_brace rest),
        scan_cons rfl]
      rfl

theorem Items.scan_write (items : Items) (integral : items.Integral) {rest : List Char}
    (closed : Closed rest) : scan (items.write rest) = items.tokens (scan rest) := by
  match items with
  | .nil => rfl
  | .cons head tail =>
      rw [Items.write, scan_cons rfl, next,
        Json.scan_write head integral.1 (tail.closed_write closed),
        tail.scan_write integral.2 closed]
      rfl

theorem Members.scan_write (members : Members) (integral : members.Integral) {rest : List Char}
    (closed : Closed rest) : scan (members.write rest) = members.tokens (scan rest) := by
  match members with
  | .nil => rfl
  | .cons key value members =>
      rw [Members.write, scan_cons rfl, next, scan_writeString, scan_cons rfl, next,
        Json.scan_write value integral.1 (members.closed_write closed),
        members.scan_write integral.2 closed]
      rfl

end

private theorem scan_replicate_space (count : Nat) (rest : List Char) :
    scan (List.replicate count ' ' ++ rest) = scan rest := by
  induction count with
  | zero => rfl
  | succ count inductionHypothesis =>
      rw [List.replicate_succ, List.cons_append, scan_space rfl, inductionHypothesis]

private theorem scan_newLine (depth : Nat) (rest : List Char) :
    scan (newLine depth rest) = scan rest := by
  rw [newLine, List.cons_append, scan_space rfl, scan_replicate_space]

private theorem closed_newLine (depth : Nat) (rest : List Char) : Closed (newLine depth rest) :=
  closed_cons _ (by decide)

private theorem Items.closed_writeIndented (items : Items) (depth : Nat) {rest : List Char}
    (closed : Closed rest) : Closed (items.writeIndented depth rest) := by
  cases items with
  | nil => exact closed
  | cons head tail => exact closed_cons _ (by decide)

theorem Members.closed_writeIndented (members : Members) (depth : Nat) {rest : List Char}
    (closed : Closed rest) : Closed (members.writeIndented depth rest) := by
  cases members with
  | nil => exact closed
  | cons key value rest => exact closed_cons _ (by decide)

mutual

theorem scan_writeIndented (value : Json) (integral : value.Integral) (depth : Nat)
    {rest : List Char} (closed : Closed rest) :
    scan (value.writeIndented depth rest) = value.tokens (scan rest) := by
  match value with
  | .null => exact scan_cons rfl _
  | .bool true => exact scan_cons rfl _
  | .bool false => exact scan_cons rfl _
  | .number (.int n) => exact scan_write_int integral closed
  | .string text => exact scan_writeString text rest
  | .array .nil => rw [writeIndented, scan_cons rfl, next, scan_cons rfl]; rfl
  | .array (.cons head tail) =>
      have ending := closed_newLine depth (']' :: rest)
      rw [writeIndented, scan_cons rfl, next, scan_newLine,
        scan_writeIndented head integral.1 _ (tail.closed_writeIndented _ ending),
        tail.scan_writeIndented integral.2 _ ending, scan_newLine, scan_cons rfl]
      rfl
  | .object .nil => rw [writeIndented, scan_cons rfl, next, scan_cons rfl]; rfl
  | .object (.cons key value members) =>
      have ending := closed_newLine depth ('\x7d' :: rest)
      rw [writeIndented, scan_cons rfl, next, scan_newLine, scan_writeString, scan_cons rfl, next,
        scan_space rfl,
        scan_writeIndented value integral.1 _ (members.closed_writeIndented _ ending),
        members.scan_writeIndented integral.2 _ ending, scan_newLine, scan_cons rfl]
      rfl

theorem Items.scan_writeIndented (items : Items) (integral : items.Integral) (depth : Nat)
    {rest : List Char} (closed : Closed rest) :
    scan (items.writeIndented depth rest) = items.tokens (scan rest) := by
  match items with
  | .nil => rfl
  | .cons head tail =>
      rw [Items.writeIndented, scan_cons rfl, next, scan_newLine,
        Json.scan_writeIndented head integral.1 _ (tail.closed_writeIndented _ closed),
        tail.scan_writeIndented integral.2 _ closed]
      rfl

theorem Members.scan_writeIndented (members : Members) (integral : members.Integral) (depth : Nat)
    {rest : List Char} (closed : Closed rest) :
    scan (members.writeIndented depth rest) = members.tokens (scan rest) := by
  match members with
  | .nil => rfl
  | .cons key value members =>
      rw [Members.writeIndented, scan_cons rfl, next, scan_newLine, scan_writeString,
        scan_cons rfl, next, scan_space rfl,
        Json.scan_writeIndented value integral.1 _ (members.closed_writeIndented _ closed),
        members.scan_writeIndented integral.2 _ closed]
      rfl

end

private theorem writeString_append (text : String) (rest more : List Char) :
    writeString text rest ++ more = writeString text (rest ++ more) := by
  rw [writeString, writeString, List.append_assoc]
  rfl

private theorem newLine_append (depth : Nat) (rest more : List Char) :
    newLine depth rest ++ more = newLine depth (rest ++ more) := by
  rw [newLine, newLine, List.append_assoc]

mutual

theorem writeIndented_append (value : Json) (depth : Nat) (rest more : List Char) :
    value.writeIndented depth rest ++ more = value.writeIndented depth (rest ++ more) := by
  match value with
  | .null => rfl
  | .bool true => rfl
  | .bool false => rfl
  | .number _ => exact List.append_assoc ..
  | .string text => exact writeString_append text rest more
  | .array .nil => rfl
  | .array (.cons head tail) =>
      rw [writeIndented, writeIndented, List.cons_append, newLine_append,
        head.writeIndented_append, tail.writeIndented_append, newLine_append, List.cons_append]
  | .object .nil => rfl
  | .object (.cons key value members) =>
      rw [writeIndented, writeIndented, List.cons_append, newLine_append, writeString_append,
        List.cons_append, List.cons_append, value.writeIndented_append,
        members.writeIndented_append, newLine_append, List.cons_append]

theorem Items.writeIndented_append (items : Items) (depth : Nat) (rest more : List Char) :
    items.writeIndented depth rest ++ more = items.writeIndented depth (rest ++ more) := by
  match items with
  | .nil => rfl
  | .cons head tail =>
      rw [Items.writeIndented, Items.writeIndented, List.cons_append, newLine_append,
        head.writeIndented_append, tail.writeIndented_append]

theorem Members.writeIndented_append (members : Members) (depth : Nat) (rest more : List Char) :
    members.writeIndented depth rest ++ more = members.writeIndented depth (rest ++ more) := by
  match members with
  | .nil => rfl
  | .cons key value members =>
      rw [Members.writeIndented, Members.writeIndented, List.cons_append, newLine_append,
        writeString_append, List.cons_append, List.cons_append, value.writeIndented_append,
        members.writeIndented_append]

end

end Marquee.Json
