import Marquee.Panel.Display
import Mathlib.Data.List.Induction
import Mathlib.Data.Nat.Bitwise

/-!
# The pixels of a frame

A frame holds the pixels of a display, eight in a byte. Packing bits into a byte keeps each of them
and loses none, so a frame of the right size and the pixels it draws stand for each other.
-/

namespace Marquee.Display

/-- The bits of a number that is put together from them, the highest first. -/
theorem testBit_foldl (bits : List Bool) (position : Nat) :
    (bits.foldl (fun (value : Nat) (bit : Bool) => 2 * value + bit.toNat) 0).testBit position =
      (bits.reverse[position]?).getD false := by
  induction bits using List.reverseRecOn generalizing position with
  | nil => simp
  | append_singleton bits bit inductionHypothesis =>
      rw [List.foldl_append, List.foldl_cons, List.foldl_nil, List.reverse_append]
      rw [← Nat.bit_val]
      cases position with
      | zero => simp
      | succ position =>
          rw [Nat.testBit_bit_succ, inductionHypothesis]
          simp

theorem bitAt_packByte {bits : List Bool} (eight : bits.length = 8) {position : Nat}
    (within : position < 8) : bitAt (packByte bits) position = (bits[position]?).getD false := by
  have within' : 7 - position < 8 := by omega
  rw [bitAt, packByte, UInt8.toNat_ofNat', Nat.testBit_mod_two_pow, testBit_foldl,
    List.getElem?_reverse (by omega), eight]
  have mirrored : 8 - 1 - (7 - position) = position := by omega
  rw [mirrored]
  simp [within']

/-- Bytes with the same bits are the same. -/
theorem eq_of_bitAt {left right : UInt8}
    (same : ∀ position < 8, bitAt left position = bitAt right position) : left = right := by
  apply UInt8.toNat_inj.mp
  apply Nat.eq_of_testBit_eq
  intro index
  by_cases low : index < 8
  · have mirrored : 7 - (7 - index) = index := by omega
    have bit := same (7 - index) (by omega)
    rwa [bitAt, bitAt, mirrored] at bit
  · have high : 2 ^ 8 ≤ 2 ^ index := Nat.pow_le_pow_right (by decide) (by omega)
    rw [Nat.testBit_lt_two_pow (left.toNat_lt.trans_le high),
      Nat.testBit_lt_two_pow (right.toNat_lt.trans_le high)]

private theorem packByte_bits (byte : UInt8) :
    packByte ((List.range 8).map (bitAt byte)) = byte := by
  apply eq_of_bitAt
  intro position within
  rw [bitAt_packByte (by simp) within]
  simp [within]

private theorem getElem_decode (frame : FrameData) {index : Nat} (within : index < pixelCount) :
    (decode frame)[index] = bitAt (frame.getD (index / 8) 0) (index % 8) := by
  simp [decode]

theorem size_toFrame (display : Display) : display.toFrame.size = frameBytes := by
  simp [toFrame]

/-- The byte of a frame at a place holds the eight pixels that begin there. -/
theorem getElem_toFrame (display : Display) {index : Nat} (within : index < display.toFrame.size) :
    display.toFrame[index] =
      packByte ((List.range 8).map fun bit => (display.pixels[8 * index + bit]?).getD false) := by
  simp [toFrame]

/-- The frame of a display draws the pixels of that display. -/
theorem decode_toFrame (display : Display) : decode display.toFrame = display.pixels := by
  apply Vector.ext
  intro index within
  have byte : index / 8 < display.toFrame.size := by
    rw [size_toFrame]
    simp only [frameBytes, pixelCount, panelWidth, panelHeight] at within ⊢
    omega
  have bit : index % 8 < 8 := Nat.mod_lt index (by decide)
  have place : 8 * (index / 8) + index % 8 = index := Nat.div_add_mod index 8
  rw [getElem_decode _ within, Array.getD_eq_getD_getElem?, Array.getElem?_eq_getElem byte,
    Option.getD_some, getElem_toFrame, bitAt_packByte (by simp) bit]
  simp [bit, place, within]

/-- The display of a frame gives that frame back. -/
theorem toFrame_of_pixels {display : Display} {frame : FrameData}
    (size : frame.size = frameBytes) (drawn : display.pixels = decode frame) :
    display.toFrame = frame := by
  apply Array.ext
  · rw [size_toFrame, size]
  · intro index inside within
    have bits : ∀ bit < 8,
        (display.pixels[8 * index + bit]?).getD false = bitAt frame[index] bit := by
      intro bit low
      have place : 8 * index + bit < pixelCount := by
        rw [size] at within
        simp only [frameBytes, pixelCount, panelWidth, panelHeight] at within ⊢
        omega
      have byte : (8 * index + bit) / 8 = index := by omega
      have position : (8 * index + bit) % 8 = bit := by omega
      rw [drawn, Vector.getElem?_eq_getElem place, Option.getD_some, getElem_decode _ place, byte,
        position, Array.getD_eq_getD_getElem?, Array.getElem?_eq_getElem within, Option.getD_some]
    rw [getElem_toFrame, ← packByte_bits frame[index]]
    refine congrArg packByte (List.map_congr_left fun bit member => ?_)
    exact bits bit (List.mem_range.mp member)

theorem drawFrame?_eq_some_iff {display drawn : Display} {frame : FrameData} :
    display.drawFrame? frame = some drawn ↔
      frame.size = frameBytes ∧ drawn = display.present (decode frame) display.color := by
  rw [drawFrame?]
  by_cases size : frame.size = frameBytes
  · simp [size, eq_comm]
  · simp [size]

theorem isSome_drawFrame?_iff {display : Display} {frame : FrameData} :
    (display.drawFrame? frame).isSome ↔ frame.size = frameBytes := by
  by_cases size : frame.size = frameBytes
  · simp [drawFrame?, size]
  · simp [drawFrame?, size]

/-- A pixel of the panel is one of the pixels in a row. -/
theorem index_lt {x y : Nat} (column : x < panelWidth) (row : y < panelHeight) :
    y * panelWidth + x < pixelCount := by
  simp only [pixelCount, panelWidth, panelHeight] at column row ⊢
  omega

theorem getElem?_pixels (display : Display) {x y : Nat} (column : x < panelWidth)
    (row : y < panelHeight) :
    display.pixels[y * panelWidth + x]? = some (display.pixel x y) := by
  rw [pixel, if_pos ⟨column, row⟩, Vector.getElem?_eq_getElem (index_lt column row),
    Option.getD_some]

theorem pixel_outside (display : Display) {x y : Nat}
    (outside : ¬(x < panelWidth ∧ y < panelHeight)) : display.pixel x y = false := by
  rw [pixel, if_neg outside]

/-- The pixel of a frame that is drawn is a bit of one of its bytes. -/
theorem pixel_of_pixels {display : Display} {frame : FrameData}
    (drawn : display.pixels = decode frame) {x y : Nat} (column : x < panelWidth)
    (row : y < panelHeight) :
    display.pixel x y = bitAt (frame.getD (4 * y + x / 8) 0) (x % 8) := by
  have within := index_lt column row
  have byte : (y * panelWidth + x) / 8 = 4 * y + x / 8 := by
    simp only [panelWidth]
    omega
  have position : (y * panelWidth + x) % 8 = x % 8 := by
    simp only [panelWidth]
    omega
  have place := display.getElem?_pixels column row
  rw [drawn, Vector.getElem?_eq_getElem within, getElem_decode _ within, byte, position] at place
  exact (Option.some.inj place).symm

end Marquee.Display
