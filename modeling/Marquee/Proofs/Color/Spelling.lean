import Marquee.Color
import Marquee.Proofs.Text.Numerals

/-!
# How colors are spelled

A color is spelled with six hexadecimal digits, after a hash or not, or with three decimal numerals
between commas. Blanks may stand around it and around each numeral. Exactly these texts are read,
and those in which a plus sign stands in front of the number of a channel.
-/

namespace Marquee

open Text

namespace Color

/-- A channel in two hexadecimal digits. With a sign, a plus may stand for the first one. -/
inductive HexChannel (signed : Bool) : List Char → UInt8 → Prop where
  | digits {high low : Char} {sixteens units : Nat} {channel : UInt8}
      (first : HexDigit high sixteens) (second : HexDigit low units)
      (value : channel.toNat = 16 * sixteens + units) : HexChannel signed [high, low] channel
  | plus {low : Char} {units : Nat} {channel : UInt8} (allowed : signed = true)
      (second : HexDigit low units) (value : channel.toNat = units) :
      HexChannel signed ['+', low] channel

/-- A channel as a decimal numeral between blanks. With a sign, a plus may stand before the
numeral. -/
def DecimalChannel (signed : Bool) (cs : List Char) (channel : UInt8) : Prop :=
  ∃ core, Padded core cs ∧ Unsigned signed core channel.toNat

/-- What spells a color, without blanks around it. -/
inductive Spells (signed : Bool) : List Char → Color → Prop where
  | hex {hash red green blue : List Char} {color : Color} (marked : hash = [] ∨ hash = ['#'])
      (first : HexChannel signed red color.red) (second : HexChannel signed green color.green)
      (third : HexChannel signed blue color.blue) :
      Spells signed (hash ++ (red ++ (green ++ blue))) color
  | list {red green blue : List Char} {color : Color}
      (first : DecimalChannel signed red color.red)
      (second : DecimalChannel signed green color.green)
      (third : DecimalChannel signed blue color.blue) :
      Spells signed
        ('r' :: 'g' :: 'b' :: '(' :: ((red ++ ',' :: (green ++ ',' :: blue)) ++ [')'])) color

/-- A text that spells a color. -/
def Spelled (signed : Bool) (text : String) (color : Color) : Prop :=
  ∃ core, Padded core text.toList ∧ Spells signed core color

private theorem ofNat_eq_iff {n : Nat} (small : n < 256) {channel : UInt8} :
    UInt8.ofNat n = channel ↔ channel.toNat = n := by
  rw [← UInt8.toNat_inj, UInt8.toNat_ofNat_of_lt' small]
  exact eq_comm

private theorem readHexPair_eq_some_iff {high low : Char} {channel : UInt8} :
    readHexPair high low = some channel ↔ HexChannel true [high, low] channel := by
  have bounded {c : Char} {value : Nat} (digit : HexDigit c value) : value < 16 := digit.1
  constructor
  · intro read
    simp only [readHexPair, Option.bind_eq_bind, Option.bind_eq_some_iff] at read
    obtain ⟨units, found, read⟩ := read
    have second := hexValue?_eq_some_iff.mp found
    have small := bounded second
    split at read
    · next sign =>
        subst sign
        refine .plus rfl second ((ofNat_eq_iff ?_).mp (Option.some.inj read))
        omega
    · simp only [Option.bind_eq_some_iff] at read
      obtain ⟨sixteens, found, read⟩ := read
      have first := hexValue?_eq_some_iff.mp found
      have large := bounded first
      refine .digits first second ((ofNat_eq_iff ?_).mp (Option.some.inj read))
      omega
  · intro spelled
    rw [readHexPair]
    cases spelled with
    | plus allowed second value =>
        rw [hexValue?_eq_some_iff.mpr second, ← value, Option.bind_eq_bind, Option.bind_some,
          if_pos rfl, UInt8.ofNat_toNat]
        rfl
    | digits first second value =>
        have unsigned : high ≠ '+' := by
          rintro rfl
          exact not_hexDigit rfl _ first
        rw [hexValue?_eq_some_iff.mpr second, hexValue?_eq_some_iff.mpr first,
          Option.bind_eq_bind, Option.bind_some, if_neg unsigned, Option.bind_some, ← value,
          UInt8.ofNat_toNat]
        rfl

private theorem readChannel_eq_some_iff {cs : List Char} {channel : UInt8} :
    readChannel cs = some channel ↔ DecimalChannel true cs channel := by
  rw [readChannel, readByte_eq_some_iff]
  constructor
  · intro unsigned
    exact ⟨trim cs, padded_trim cs, unsigned⟩
  · rintro ⟨core, padded, unsigned⟩
    rw [trim_eq_of_padded padded unsigned.bare]
    exact unsigned

/-- A hexadecimal channel has two characters. -/
theorem HexChannel.exists_pair {signed : Bool} {cs : List Char} {channel : UInt8}
    (spelled : HexChannel signed cs channel) : ∃ high low, cs = [high, low] := by
  cases spelled with
  | digits first second value => exact ⟨_, _, rfl⟩
  | plus allowed second value => exact ⟨_, _, rfl⟩

theorem HexChannel.mem {signed : Bool} {cs : List Char} {channel : UInt8}
    (spelled : HexChannel signed cs channel) :
    ∀ c ∈ cs, (∃ value, HexDigit c value) ∨ signed = true ∧ c = '+' := by
  intro c among
  cases spelled with
  | digits first second value =>
      simp only [List.mem_cons, List.not_mem_nil, or_false] at among
      rcases among with rfl | rfl
      · exact Or.inl ⟨_, first⟩
      · exact Or.inl ⟨_, second⟩
  | plus allowed second value =>
      simp only [List.mem_cons, List.not_mem_nil, or_false] at among
      rcases among with rfl | rfl
      · exact Or.inr ⟨allowed, rfl⟩
      · exact Or.inl ⟨_, second⟩

theorem HexChannel.not_mem {signed : Bool} {cs : List Char} {channel : UInt8}
    (spelled : HexChannel signed cs channel) {c : Char} (unread : hexValue? c = none)
    (other : c ≠ '+') : c ∉ cs := by
  intro among
  rcases spelled.mem c among with ⟨value, digit⟩ | ⟨_, sign⟩
  · exact not_hexDigit unread value digit
  · exact other sign

/-- The digits of a text that may begin with a hash. -/
def withoutHash (cs : List Char) : List Char :=
  match cs with
  | '#' :: digits => digits
  | _ => cs

/-- Reads six characters, two for each channel. -/
def readPairs : List Char → Option Color
  | [a, b, c, d, e, f] => do
    let red ← readHexPair a b
    let green ← readHexPair c d
    let blue ← readHexPair e f
    return ⟨red, green, blue⟩
  | _ => none

private theorem readHex_eq (cs : List Char) : readHex cs = readPairs (withoutHash cs) := rfl

private theorem withoutHash_of_ne {c : Char} (unmarked : c ≠ '#') (rest : List Char) :
    withoutHash (c :: rest) = c :: rest := by
  simp [withoutHash, unmarked]

private theorem exists_withoutHash (cs : List Char) :
    ∃ hash, (hash = [] ∨ hash = ['#']) ∧ cs = hash ++ withoutHash cs := by
  cases cs with
  | nil => exact ⟨[], Or.inl rfl, rfl⟩
  | cons c rest =>
      by_cases marked : c = '#'
      · subst marked
        exact ⟨['#'], Or.inr rfl, rfl⟩
      · rw [withoutHash_of_ne marked]
        exact ⟨[], Or.inl rfl, rfl⟩

private theorem readPairs_eq_some_iff {digits : List Char} {color : Color} :
    readPairs digits = some color ↔
      ∃ red green blue, digits = red ++ (green ++ blue) ∧ HexChannel true red color.red ∧
        HexChannel true green color.green ∧ HexChannel true blue color.blue := by
  constructor
  · intro read
    rw [readPairs.eq_def] at read
    split at read
    · simp only [Option.bind_eq_bind, Option.bind_eq_some_iff, readHexPair_eq_some_iff] at read
      obtain ⟨red, first, green, second, blue, third, same⟩ := read
      cases same
      exact ⟨_, _, _, rfl, first, second, third⟩
    · cases read
  · rintro ⟨red, green, blue, rfl, first, second, third⟩
    obtain ⟨a, b, rfl⟩ := first.exists_pair
    obtain ⟨c, d, rfl⟩ := second.exists_pair
    obtain ⟨e, f, rfl⟩ := third.exists_pair
    rw [← readHexPair_eq_some_iff] at first second third
    simp [readPairs, first, second, third]

theorem HexChannel.withoutHash {signed : Bool} {cs : List Char} {channel : UInt8}
    (spelled : HexChannel signed cs channel) (rest : List Char) :
    withoutHash (cs ++ rest) = cs ++ rest := by
  obtain ⟨high, low, rfl⟩ := spelled.exists_pair
  apply withoutHash_of_ne
  rintro rfl
  exact spelled.not_mem rfl (by decide) List.mem_cons_self

/-- Six characters, two for each channel, after a hash or not. -/
theorem readHex_eq_some_iff {cs : List Char} {color : Color} :
    readHex cs = some color ↔
      ∃ hash red green blue, cs = hash ++ (red ++ (green ++ blue)) ∧
        (hash = [] ∨ hash = ['#']) ∧ HexChannel true red color.red ∧
        HexChannel true green color.green ∧ HexChannel true blue color.blue := by
  rw [readHex_eq, readPairs_eq_some_iff]
  constructor
  · rintro ⟨red, green, blue, digits, channels⟩
    obtain ⟨hash, marked, written⟩ := exists_withoutHash cs
    rw [digits] at written
    exact ⟨hash, red, green, blue, written, marked, channels⟩
  · rintro ⟨hash, red, green, blue, rfl, marked, first, second, third⟩
    refine ⟨red, green, blue, ?_, first, second, third⟩
    rcases marked with rfl | rfl
    · exact first.withoutHash _
    · rfl

/-! ## Lists of channels -/

private theorem splitCommas_cons_of_ne {c : Char} {cs part : List Char} {parts : List (List Char)}
    (other : c ≠ ',') (rest : splitCommas cs = part :: parts) :
    splitCommas (c :: cs) = (c :: part) :: parts := by
  rw [splitCommas, if_neg other, rest]

private theorem splitCommas_of_no_comma {part : List Char} (plain : ',' ∉ part) :
    splitCommas part = [part] := by
  induction part with
  | nil => rfl
  | cons c rest inductionHypothesis =>
      simp only [List.mem_cons, not_or] at plain
      exact splitCommas_cons_of_ne (Ne.symm plain.1) (inductionHypothesis plain.2)

private theorem splitCommas_append {part : List Char} (plain : ',' ∉ part) (rest : List Char) :
    splitCommas (part ++ ',' :: rest) = part :: splitCommas rest := by
  induction part with
  | nil => rfl
  | cons c others inductionHypothesis =>
      simp only [List.mem_cons, not_or] at plain
      exact splitCommas_cons_of_ne (Ne.symm plain.1) (inductionHypothesis plain.2)

private theorem splitCommas_ne_nil (cs : List Char) : splitCommas cs ≠ [] := by
  by_cases comma : ',' ∈ cs
  · obtain ⟨before, after, rfl, plain⟩ := List.eq_append_cons_of_mem comma
    rw [splitCommas_append plain]
    exact List.cons_ne_nil _ _
  · rw [splitCommas_of_no_comma comma]
    exact List.cons_ne_nil _ _

/-- The first part ends where the first comma stands. -/
theorem splitCommas_eq_cons {cs part : List Char} {parts : List (List Char)}
    (split : splitCommas cs = part :: parts) :
    (cs = part ∧ parts = []) ∨ ∃ rest, cs = part ++ ',' :: rest ∧ splitCommas rest = parts := by
  by_cases comma : ',' ∈ cs
  · obtain ⟨before, after, rfl, plain⟩ := List.eq_append_cons_of_mem comma
    rw [splitCommas_append plain] at split
    cases split
    exact Or.inr ⟨after, rfl, rfl⟩
  · rw [splitCommas_of_no_comma comma] at split
    cases split
    exact Or.inl ⟨rfl, rfl⟩

private theorem eq_of_splitCommas {cs first second third : List Char}
    (split : splitCommas cs = [first, second, third]) :
    cs = first ++ ',' :: (second ++ ',' :: third) := by
  obtain ⟨_, none⟩ | ⟨later, written, rest⟩ := splitCommas_eq_cons split
  · cases none
  obtain ⟨_, none⟩ | ⟨last, ending, others⟩ := splitCommas_eq_cons rest
  · cases none
  obtain ⟨last, _⟩ | ⟨more, _, none⟩ := splitCommas_eq_cons others
  · rw [written, ending, last]
  · exact absurd none (splitCommas_ne_nil more)

private theorem channelList?_eq_some_iff {cs inner : List Char} :
    channelList? cs = some inner ↔ cs = 'r' :: 'g' :: 'b' :: '(' :: (inner ++ [')']) := by
  constructor
  · intro listed
    rw [channelList?.eq_def] at listed
    split at listed
    · next rest =>
        split at listed
        · next others backwards =>
            cases listed
            have written := congrArg List.reverse backwards
            rw [List.reverse_reverse, List.reverse_cons] at written
            rw [written]
        · cases listed
    · cases listed
  · rintro rfl
    simp [channelList?]

/-- A decimal channel is written with blanks and digits, and perhaps with a sign. -/
theorem DecimalChannel.mem {signed : Bool} {cs : List Char} {channel : UInt8}
    (spelled : DecimalChannel signed cs channel) :
    ∀ c ∈ cs, isBlank c = true ∨ isDigit c = true ∨ signed = true ∧ c = '+' := by
  obtain ⟨core, ⟨before, after, rfl, blankBefore, blankAfter⟩, unsigned⟩ := spelled
  intro c among
  rcases List.mem_append.mp among with early | late
  · rcases List.mem_append.mp early with first | middle
    · exact Or.inl (blankBefore c first)
    · exact Or.inr (unsigned.mem c middle)
  · exact Or.inl (blankAfter c late)

theorem DecimalChannel.no_comma {signed : Bool} {cs : List Char} {channel : UInt8}
    (spelled : DecimalChannel signed cs channel) : ',' ∉ cs := by
  intro among
  rcases spelled.mem ',' among with blank | digit | ⟨_, sign⟩
  · cases blank
  · cases digit
  · cases sign

/-! ## Whole texts -/

/-- What a list of channels is read as. -/
def readList (inner : List Char) : Option Color :=
  match splitCommas inner with
  | [first, second, third] => do
    let red ← readChannel first
    let green ← readChannel second
    let blue ← readChannel third
    return ⟨red, green, blue⟩
  | _ => none

private theorem readList_eq_some_iff {inner : List Char} {color : Color} :
    readList inner = some color ↔
      ∃ red green blue, inner = red ++ ',' :: (green ++ ',' :: blue) ∧
        DecimalChannel true red color.red ∧ DecimalChannel true green color.green ∧
        DecimalChannel true blue color.blue := by
  constructor
  · intro read
    rw [readList] at read
    split at read
    · next first second third split =>
        simp only [Option.bind_eq_bind, Option.bind_eq_some_iff, readChannel_eq_some_iff] at read
        obtain ⟨red, one, green, two, blue, three, same⟩ := read
        cases same
        exact ⟨first, second, third, eq_of_splitCommas split, one, two, three⟩
    · cases read
  · rintro ⟨first, second, third, rfl, one, two, three⟩
    have split :
        splitCommas (first ++ ',' :: (second ++ ',' :: third)) = [first, second, third] := by
      rw [splitCommas_append one.no_comma, splitCommas_append two.no_comma,
        splitCommas_of_no_comma three.no_comma]
    rw [← readChannel_eq_some_iff] at one two three
    simp [readList, split, one, two, three]

/-- What is left of a text without the blanks around it, read as a color. -/
def readCore (core : List Char) : Option Color :=
  match channelList? core with
  | some inner => readList inner
  | none => readHex core

private theorem parse?_eq (text : String) : parse? text = readCore (trim text.toList) := rfl

theorem HexChannel.not_list {signed : Bool} {cs : List Char} {channel : UInt8}
    (spelled : HexChannel signed cs channel) {hash : List Char} (marked : hash = [] ∨ hash = ['#'])
    (rest : List Char) : channelList? (hash ++ (cs ++ rest)) = none := by
  obtain ⟨high, low, rfl⟩ := spelled.exists_pair
  rw [Option.eq_none_iff_forall_ne_some]
  intro inner listed
  have written := channelList?_eq_some_iff.mp listed
  rcases marked with rfl | rfl
  · injection written with first
    subst first
    exact spelled.not_mem rfl (by decide) List.mem_cons_self
  · injection written with first
    cases first

private theorem readCore_eq_some_iff {core : List Char} {color : Color} :
    readCore core = some color ↔ Spells true core color := by
  constructor
  · intro read
    rw [readCore] at read
    split at read
    · next inner listed =>
        obtain ⟨red, green, blue, rfl, first, second, third⟩ := readList_eq_some_iff.mp read
        rw [channelList?_eq_some_iff.mp listed]
        exact .list first second third
    · obtain ⟨hash, red, green, blue, rfl, marked, first, second, third⟩ :=
        readHex_eq_some_iff.mp read
      exact .hex marked first second third
  · intro spells
    rw [readCore]
    cases spells with
    | hex marked first second third =>
        rw [first.not_list marked]
        exact readHex_eq_some_iff.mpr ⟨_, _, _, _, rfl, marked, first, second, third⟩
    | list first second third =>
        rw [channelList?_eq_some_iff.mpr rfl]
        exact readList_eq_some_iff.mpr ⟨_, _, _, rfl, first, second, third⟩

theorem HexChannel.visible {signed : Bool} {cs : List Char} {channel : UInt8}
    (spelled : HexChannel signed cs channel) : ∀ c ∈ cs, isBlank c = false := by
  intro c among
  rcases spelled.mem c among with ⟨value, digit⟩ | ⟨_, rfl⟩
  · exact digit.visible
  · rfl

theorem Spells.bare {signed : Bool} {core : List Char} {color : Color}
    (spells : Spells signed core color) : Bare core := by
  cases spells with
  | hex marked first second third =>
      apply bare_of_visible
      intro c among
      simp only [List.mem_append] at among
      rcases among with hash | red | green | blue
      · rcases marked with rfl | rfl
        · cases hash
        · rw [List.mem_singleton.mp hash]
          rfl
      · exact first.visible c red
      · exact second.visible c green
      · exact third.visible c blue
  | list first second third =>
      constructor
      · rintro c ⟨⟩
        rfl
      · intro c last
        change c ∈ (('r' :: 'g' :: 'b' :: '(' :: _) ++ [')']).getLast? at last
        rw [List.getLast?_concat] at last
        cases last
        rfl

/-- Exactly the texts that spell a color, signs allowed, are read. -/
theorem parse?_eq_some_iff {text : String} {color : Color} :
    parse? text = some color ↔ Spelled true text color := by
  rw [parse?_eq, readCore_eq_some_iff]
  constructor
  · intro spells
    exact ⟨trim text.toList, padded_trim text.toList, spells⟩
  · rintro ⟨core, padded, spells⟩
    rw [trim_eq_of_padded padded spells.bare]
    exact spells

theorem HexChannel.plain_iff {cs : List Char} {channel : UInt8} :
    HexChannel false cs channel ↔ HexChannel true cs channel ∧ '+' ∉ cs := by
  constructor
  · intro spelled
    have plain : '+' ∉ cs := by
      intro sign
      rcases spelled.mem '+' sign with ⟨value, digit⟩ | ⟨allowed, _⟩
      · exact not_hexDigit rfl value digit
      · cases allowed
    cases spelled with
    | digits first second value => exact ⟨.digits first second value, plain⟩
    | plus allowed second value => cases allowed
  · rintro ⟨spelled, plain⟩
    cases spelled with
    | digits first second value => exact .digits first second value
    | plus allowed second value => exact absurd List.mem_cons_self plain

theorem DecimalChannel.plain_iff {cs : List Char} {channel : UInt8} :
    DecimalChannel false cs channel ↔ DecimalChannel true cs channel ∧ '+' ∉ cs := by
  constructor
  · intro spelled
    refine ⟨?_, ?_⟩
    · obtain ⟨core, padded, unsigned⟩ := spelled
      exact ⟨core, padded, (Unsigned.plain_iff.mp unsigned).1⟩
    · intro sign
      rcases spelled.mem '+' sign with blank | digit | ⟨allowed, _⟩
      · cases blank
      · cases digit
      · cases allowed
  · rintro ⟨⟨core, padded, unsigned⟩, plain⟩
    refine ⟨core, padded, Unsigned.plain_iff.mpr ⟨unsigned, fun sign => plain ?_⟩⟩
    obtain ⟨before, after, rfl, _⟩ := padded
    simp [sign]

theorem Spells.plain_iff {core : List Char} {color : Color} :
    Spells false core color ↔ Spells true core color ∧ '+' ∉ core := by
  constructor
  · intro spells
    cases spells with
    | hex marked first second third =>
        rw [HexChannel.plain_iff] at first second third
        refine ⟨.hex marked first.1 second.1 third.1, ?_⟩
        rcases marked with rfl | rfl
        · simp [first.2, second.2, third.2]
        · simp [first.2, second.2, third.2]
    | list first second third =>
        rw [DecimalChannel.plain_iff] at first second third
        refine ⟨.list first.1 second.1 third.1, ?_⟩
        simp [first.2, second.2, third.2]
  · rintro ⟨spells, plain⟩
    cases spells with
    | hex marked first second third =>
        simp only [List.mem_append, not_or] at plain
        obtain ⟨_, red, green, blue⟩ := plain
        exact .hex marked (HexChannel.plain_iff.mpr ⟨first, red⟩)
          (HexChannel.plain_iff.mpr ⟨second, green⟩) (HexChannel.plain_iff.mpr ⟨third, blue⟩)
    | list first second third =>
        simp only [List.mem_cons, List.mem_append, not_or] at plain
        obtain ⟨_, _, _, _, ⟨red, _, green, _, blue⟩, _⟩ := plain
        exact .list (DecimalChannel.plain_iff.mpr ⟨first, red⟩)
          (DecimalChannel.plain_iff.mpr ⟨second, green⟩)
          (DecimalChannel.plain_iff.mpr ⟨third, blue⟩)

/-- Without signs, a color is spelled by the texts in which there is none. -/
theorem spelled_plain_iff {text : String} {color : Color} :
    Spelled false text color ↔ Spelled true text color ∧ '+' ∉ text.toList := by
  constructor
  · rintro ⟨core, padded, spells⟩
    obtain ⟨spells, plain⟩ := Spells.plain_iff.mp spells
    refine ⟨⟨core, padded, spells⟩, ?_⟩
    obtain ⟨before, after, written, blankBefore, blankAfter⟩ := padded
    rw [written]
    simp only [List.mem_append, not_or]
    refine ⟨⟨fun sign => ?_, plain⟩, fun sign => ?_⟩
    · cases blankBefore '+' sign
    · cases blankAfter '+' sign
  · rintro ⟨⟨core, padded, spells⟩, plain⟩
    refine ⟨core, padded, Spells.plain_iff.mpr ⟨spells, fun sign => plain ?_⟩⟩
    obtain ⟨before, after, written, _⟩ := padded
    rw [written]
    simp [sign]

/-- The texts that are read as colors are those that spell one, if a plus sign may stand in front of
the number of a channel. So the grammar without signs is kept to exactly for the texts that are not
read, and for those in which there is no plus sign. -/
theorem parse?_spelled (text : String) :
    (∀ color, parse? text = some color ↔ Spelled true text color) ∧
      ((∀ color, parse? text = some color ↔ Spelled false text color) ↔
        ((parse? text).isSome → '+' ∉ text.toList)) := by
  refine ⟨fun color => parse?_eq_some_iff, ?_, ?_⟩
  · intro exact read
    obtain ⟨color, found⟩ := Option.isSome_iff_exists.mp read
    exact (spelled_plain_iff.mp ((exact color).mp found)).2
  · intro plain color
    rw [spelled_plain_iff, ← parse?_eq_some_iff]
    constructor
    · intro found
      exact ⟨found, plain (by rw [found]; rfl)⟩
    · intro both
      exact both.1

/-- A plus sign is read for a digit, and in front of a numeral. -/
theorem parse?_signed :
    let digits := "#+1+2+3"
    let numerals := "rgb(+1, 2, 3)"
    parse? digits = some ⟨1, 2, 3⟩ ∧ parse? numerals = some ⟨1, 2, 3⟩ ∧
      (∀ color, ¬Spelled false digits color) ∧ ∀ color, ¬Spelled false numerals color := by
  refine ⟨by decide, by decide, fun color spelled => ?_, fun color spelled => ?_⟩
  · exact (spelled_plain_iff.mp spelled).2 (by decide)
  · exact (spelled_plain_iff.mp spelled).2 (by decide)

end Color

end Marquee
