import AnsiArt.Text.Hex
import AnsiArt.Text.Integer

/-!
# Colours

A colour has three channels. It is written as `#rrggbb`, two hexadecimal digits for each channel,
and read from that form or from the short form `#rgb`, in which a digit stands for two equal ones.
-/

namespace AnsiArt

/-- The amounts of red, green and blue. Colours of palettes have channels from 0 to 255. -/
structure Colour where
  red : Int
  green : Int
  blue : Int
  deriving DecidableEq

namespace Colour

/-- A colour whose channels are equal. -/
def grey (level : Int) : Colour := ⟨level, level, level⟩

/-- Whether all channels have eight bits. -/
def Valid (c : Colour) : Prop :=
  (0 ≤ c.red ∧ c.red < 256) ∧ (0 ≤ c.green ∧ c.green < 256) ∧ (0 ≤ c.blue ∧ c.blue < 256)

/-- A colour in the form `#rrggbb`. -/
def hex (c : Colour) : String := "#" ++ Hex.byte c.red ++ Hex.byte c.green ++ Hex.byte c.blue

/-- Writes each of three digits twice and leaves any other row of digits as it is. -/
def expandShort (digits : List Char) : List Char :=
  if digits.length = 3 then digits.flatMap fun c => [c, c] else digits

/-- Reads a colour. The leading marks are dropped; then the first three pairs of characters are the
channels, and the rest is ignored. -/
def ofHex (text : String) : Except IntegerError Colour := do
  let digits := expandShort (text.toList.dropWhile (· == '#'))
  let red ← Integer.read 16 (digits.take 2)
  let green ← Integer.read 16 ((digits.drop 2).take 2)
  let blue ← Integer.read 16 ((digits.drop 4).take 2)
  return ⟨red, green, blue⟩

end Colour

end AnsiArt
