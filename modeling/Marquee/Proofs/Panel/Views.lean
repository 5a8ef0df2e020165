import Marquee.Proofs.Panel.Pixels
import Marquee.Proofs.Text.Numerals

/-!
# The views of a display

A display is looked at pixel by pixel, as a number of lit pixels, as numbers in a buffer, as a frame
and as a text of lines. All views show the same pixels.
-/

namespace Marquee

namespace Display

private theorem range_mul (rows columns : Nat) :
    List.range (rows * columns) =
      (List.range rows).flatMap fun row => (List.range columns).map (row * columns + ·) := by
  induction rows with
  | zero => simp
  | succ rows inductionHypothesis =>
      rw [Nat.succ_mul, List.range_add, inductionHypothesis, List.range_succ, List.flatMap_append,
        List.flatMap_singleton]

private theorem toList_pixels (display : Display) :
    display.pixels.toList =
      (List.range pixelCount).map fun index => (display.pixels[index]?).getD false := by
  apply List.ext_getElem
  · simp
  · intro index inside within
    have small : index < pixelCount := by simpa using within
    simp [small]

/-- The pixels, cut into pieces of one length. -/
theorem toList_pixels_mul (display : Display) {rows columns : Nat}
    (whole : rows * columns = pixelCount) :
    display.pixels.toList = (List.range rows).flatMap fun row =>
      (List.range columns).map fun column =>
        (display.pixels[row * columns + column]?).getD false := by
  have indices : List.range pixelCount = _ := (congrArg List.range whole.symm).trans
    (range_mul rows columns)
  rw [toList_pixels, indices, List.map_flatMap]
  simp only [List.map_map, Function.comp_def]

theorem lit_eq_sum (display : Display) :
    display.lit = ((List.range panelHeight).map fun y =>
      (List.range panelWidth).countP fun x => display.pixel x y).sum := by
  have whole : panelHeight * panelWidth = pixelCount := Nat.mul_comm _ _
  rw [lit, display.toList_pixels_mul whole, List.countP_flatMap]
  refine congrArg List.sum (List.map_congr_left fun y row => ?_)
  rw [Function.comp_apply, List.countP_map]
  refine List.countP_congr fun x column => ?_
  rw [Function.comp_apply, pixel, if_pos ⟨List.mem_range.mp column, List.mem_range.mp row⟩]
  rfl

/-- How many bits of a byte are one. -/
def ones (byte : UInt8) : Nat :=
  (List.range 8).countP byte.toNat.testBit

private theorem countP_bitAt (byte : UInt8) : (List.range 8).countP (bitAt byte) = ones byte := by
  have mirrored : (List.range 8).map (7 - ·) = (List.range 8).reverse := by decide
  calc
    (List.range 8).countP (bitAt byte)
      = ((List.range 8).map (7 - ·)).countP byte.toNat.testBit := by
        rw [List.countP_map]
        rfl
    _ = ones byte := by rw [mirrored, List.countP_reverse, ones]

private theorem ones_packByte (isOn : Nat → Bool) :
    ones (packByte ((List.range 8).map isOn)) = (List.range 8).countP isOn := by
  rw [← countP_bitAt]
  refine List.countP_congr fun bit member => ?_
  have low := List.mem_range.mp member
  rw [bitAt_packByte (by simp) low]
  simp [low]

private theorem toList_toFrame (display : Display) :
    display.toFrame.toList = (List.range frameBytes).map fun index =>
      packByte ((List.range 8).map fun bit => (display.pixels[8 * index + bit]?).getD false) := by
  apply List.ext_getElem
  · simp [size_toFrame]
  · intro index inside within
    rw [Array.getElem_toList, getElem_toFrame, List.getElem_map, List.getElem_range]

theorem lit_eq_ones (display : Display) :
    display.lit = (display.toFrame.toList.map ones).sum := by
  have whole : frameBytes * 8 = pixelCount := rfl
  rw [lit, display.toList_pixels_mul whole, List.countP_flatMap, toList_toFrame, List.map_map]
  refine congrArg List.sum (List.map_congr_left fun index member => ?_)
  rw [Function.comp_apply, Function.comp_apply, ones_packByte, List.countP_map, Nat.mul_comm]
  rfl

private theorem buffer_getElem? (display : Display) {x y : Nat} (column : x < panelWidth)
    (row : y < panelHeight) :
    display.buffer[panelWidth * y + x]? =
      some (if display.pixel x y then display.ink.toNat else 0) := by
  rw [Nat.mul_comm, buffer, List.getElem?_map, Vector.getElem?_toList,
    display.getElem?_pixels column row, Option.map_some]

/-- The character of a pixel in the text of a display: the lines above and below it and the
characters on either side of it are the frame around the picture. -/
def cell? (text : String) (x y : Nat) : Option Char :=
  ((text.toList.splitOn '\n')[y + 1]?).bind (·[x + 1]?)

def cellChar (display : Display) (x y : Nat) : Char :=
  if display.pixel x y then '█' else ' '

def edge : List Char :=
  List.replicate panelWidth '─'

def rowLine (display : Display) (y : Nat) : List Char :=
  '│' :: ((List.range panelWidth).map (display.cellChar · y) ++ ['│'])

/-- The lines of the text of a display. -/
def lines (display : Display) : List (List Char) :=
  ('┌' :: (edge ++ '┐' :: ' ' :: display.ink.hexUpper.toList)) ::
    ((List.range panelHeight).map display.rowLine ++ ['└' :: (edge ++ ['┘'])])

private theorem toList_drawRow (display : Display) (y : Nat) :
    (display.drawRow y).toList = display.rowLine y ++ ['\n'] := by
  simp [drawRow, rowLine, cellChar]

private theorem toList_draw (display : Display) :
    display.draw.toList = display.lines.flatMap (· ++ ['\n']) := by
  simp [draw, lines, edge, toList_drawRow, String.toList_join, List.flatMap_map]

/-- Lines that are each ended by a line break are what the text splits into, before an empty one. -/
theorem splitOn_flatMap {lines : List (List Char)} (plain : ∀ line ∈ lines, '\n' ∉ line) :
    (lines.flatMap (· ++ ['\n'])).splitOn '\n' = lines ++ [[]] := by
  induction lines with
  | nil => rfl
  | cons line rest inductionHypothesis =>
      have others := inductionHypothesis fun other member =>
        plain other (List.mem_cons_of_mem line member)
      have unbroken : ∀ c ∈ line, (c == '\n') = false := by
        intro c member
        have different : c ≠ '\n' := by
          rintro rfl
          exact plain line List.mem_cons_self member
        simpa using different
      rw [List.splitOn] at others ⊢
      rw [List.flatMap_cons, List.append_assoc, List.singleton_append,
        List.splitOnP_append_cons_of_forall_mem unbroken _ (by rfl), others, List.cons_append]

private theorem mem_hexUpper {color : Color} {c : Char} (member : c ∈ color.hexUpper.toList) :
    c = '#' ∨ ∃ value, Text.HexDigit c value := by
  have digit (value : Nat) (small : value < 16) : Text.HexDigit (Text.hexDigitUpper value) value :=
    ⟨small, Or.inr rfl⟩
  have quotient (channel : UInt8) : channel.toNat / 16 < 16 := by
    have bound := channel.toNat_lt
    omega
  have rest (channel : UInt8) : channel.toNat % 16 < 16 := Nat.mod_lt _ (by decide)
  simp only [Color.hexUpper, Text.hexPairUpper, String.toList_ofList, List.cons_append,
    List.nil_append, List.mem_cons, List.not_mem_nil, or_false] at member
  rcases member with rfl | rfl | rfl | rfl | rfl | rfl | rfl
  · exact Or.inl rfl
  · exact Or.inr ⟨_, digit _ (quotient _)⟩
  · exact Or.inr ⟨_, digit _ (rest _)⟩
  · exact Or.inr ⟨_, digit _ (quotient _)⟩
  · exact Or.inr ⟨_, digit _ (rest _)⟩
  · exact Or.inr ⟨_, digit _ (quotient _)⟩
  · exact Or.inr ⟨_, digit _ (rest _)⟩

private theorem not_mem_hexUpper {c : Char} (unread : Text.hexValue? c = none) (other : c ≠ '#')
    (color : Color) : c ∉ color.hexUpper.toList := by
  intro member
  rcases mem_hexUpper member with hash | ⟨value, digit⟩
  · exact other hash
  · exact Text.not_hexDigit unread value digit

private theorem cellChar_ne_break (display : Display) (x y : Nat) :
    display.cellChar x y ≠ '\n' := by
  rw [cellChar]
  split
  · decide
  · decide

private theorem no_break_in_lines (display : Display) : ∀ line ∈ display.lines, '\n' ∉ line := by
  intro line member
  simp only [lines, List.mem_cons, List.mem_append, List.mem_map, List.not_mem_nil,
    or_false] at member
  rcases member with rfl | ⟨y, _, rfl⟩ | rfl
  · have name := not_mem_hexUpper (c := '\n') rfl (by decide) display.ink
    simp [edge, name]
  · simp [rowLine, cellChar_ne_break]
  · simp [edge]

/-- The text of a display splits into its lines. -/
theorem splitOn_draw (display : Display) :
    display.draw.toList.splitOn '\n' = display.lines ++ [[]] := by
  rw [toList_draw, splitOn_flatMap display.no_break_in_lines]

private theorem getElem?_rowLine (display : Display) {x : Nat} (column : x < panelWidth) (y : Nat) :
    (display.rowLine y)[x + 1]? = some (display.cellChar x y) := by
  simp [rowLine, List.getElem?_append, column]

private theorem cell?_draw (display : Display) {x y : Nat} (column : x < panelWidth)
    (row : y < panelHeight) : cell? display.draw x y = some (display.cellChar x y) := by
  have found : (display.lines ++ [[]])[y + 1]? = some (display.rowLine y) := by
    simp [lines, List.getElem?_append, row]
  rw [cell?, splitOn_draw, found, Option.bind_some, display.getElem?_rowLine column]

private theorem count_rowLine (display : Display) (y : Nat) :
    (display.rowLine y).count '█' =
      (List.range panelWidth).countP fun x => display.pixel x y := by
  have cells : ((List.range panelWidth).map (display.cellChar · y)).count '█' =
      (List.range panelWidth).countP fun x => display.pixel x y := by
    rw [List.count, List.countP_map]
    refine List.countP_congr fun x _ => ?_
    by_cases isOn : display.pixel x y = true
    · simp [cellChar, isOn]
    · simp [cellChar, isOn]
  simp [rowLine, cells]

/-- Nothing but lit pixels is drawn as a filled cell. -/
theorem count_draw (display : Display) : display.draw.toList.count '█' = display.lit := by
  have name : '█' ∉ display.ink.hexUpper.toList := not_mem_hexUpper rfl (by decide) _
  rw [toList_draw, lit_eq_sum, List.count_flatMap, lines]
  simp [edge, name, List.count_eq_zero_of_not_mem, count_rowLine, Function.comp_def]

/-- What the views of a display say of each other. -/
structure ViewsAgree (display : Display) : Prop where
  bits : (display.toFrame.toList.map ones).sum = display.lit
  filled : display.draw.toList.count '█' = display.lit
  cells : ∀ x < 32, ∀ y < 24,
    cell? display.draw x y = some (if display.pixel x y then '█' else ' ')
  numbers : ∀ x < 32, ∀ y < 24,
    display.buffer[32 * y + x]? = some (if display.pixel x y then display.ink.toNat else 0)
  outside : ∀ x y, ¬(x < 32 ∧ y < 24) → display.pixel x y = false

private theorem viewsAgree (display : Display) : display.ViewsAgree where
  bits := display.lit_eq_ones.symm
  filled := display.count_draw
  cells _ column _ row := display.cell?_draw column row
  numbers _ column _ row := display.buffer_getElem? column row
  outside _ _ outside := display.pixel_outside outside

/-- A frame is drawn if it has the right size, and is not drawn at all otherwise. The display shows
then the bits of the frame, the highest bit of a byte first and four bytes to a row, and gives the
frame back. The frame of a display draws what it shows already. And whatever a display shows, its
views agree. -/
theorem frames_and_views (display : Display) (frame : FrameData) :
    ((display.drawFrame? frame).isSome ↔ frame.size = 96) ∧
    (frame.size ≠ 96 → (display.drawFrame? frame).getD display = display) ∧
    (∀ drawn, display.drawFrame? frame = some drawn →
      drawn.toFrame = frame ∧
        ∀ x < 32, ∀ y < 24, (frame[4 * y + x / 8]?).map (·.toNat.testBit (7 - x % 8)) =
          some (drawn.pixel x y)) ∧
    (∃ drawn, display.drawFrame? display.toFrame = some drawn ∧
      drawn.pixels = display.pixels) ∧
    display.ViewsAgree := by
  refine ⟨isSome_drawFrame?_iff, ?_, ?_, ?_, display.viewsAgree⟩
  · intro other
    have refused : ¬frame.size = frameBytes := other
    rw [drawFrame?, if_neg refused, Option.getD_none]
  · intro drawn succeeded
    obtain ⟨size, rfl⟩ := drawFrame?_eq_some_iff.mp succeeded
    have drawn : (display.present (decode frame) display.color).pixels = decode frame := rfl
    refine ⟨toFrame_of_pixels size drawn, fun x column y row => ?_⟩
    have within : 4 * y + x / 8 < frame.size := by
      rw [size]
      simp only [frameBytes, pixelCount, panelWidth, panelHeight]
      omega
    rw [pixel_of_pixels drawn column row, bitAt, Array.getD_eq_getD_getElem?,
      Array.getElem?_eq_getElem within, Option.getD_some, Option.map_some]
  · have size := display.size_toFrame
    exact ⟨_, drawFrame?_eq_some_iff.mpr ⟨size, rfl⟩, display.decode_toFrame⟩

end Display

end Marquee
