import AnsiArt.Decimal.Binary64
import AnsiArt.Text.CharClass

/-!
# Fonts

What the program needs to know of a font: how large its letters are and which glyphs it has. A font
that keeps metrics of its own measures its lines by them, any other by the box around a letter.
-/

namespace AnsiArt

/-- A rectangle by its four sides. -/
structure Box where
  left : Int
  top : Int
  right : Int
  bottom : Int
  deriving DecidableEq

/-- Width and height. -/
structure Extent where
  width : Int
  height : Int
  deriving DecidableEq

/-- How far a line reaches above and below its base. -/
structure Metrics where
  ascent : Int
  descent : Int
  deriving DecidableEq

/-- A loaded font. The size of a glyph is `none` for a character that cannot be drawn at all. -/
structure Font where
  label : String
  advance : Binary64
  letterBox : Box
  metrics : Option Metrics := none
  glyphSize : Char → Option Extent

namespace Font

/-- Whether a font can show a character. A blank needs no glyph; any other glyph must have a width
and a height. -/
def canShow (f : Font) (c : Char) : Bool :=
  isBlank c || (f.glyphSize c).any fun e => 0 < e.width && 0 < e.height

/-- The cell of one character, at least one unit wide and high. An advance that rounds to nothing
gives way to the width of the letter box. -/
def cell (f : Font) : Extent :=
  let advance := f.advance.round
  let width := if advance = 0 then f.letterBox.right - f.letterBox.left else advance
  let height := match f.metrics with
    | some m => m.ascent + m.descent
    | none => f.letterBox.bottom
  ⟨max 1 width, max 1 height⟩

end Font

end AnsiArt
