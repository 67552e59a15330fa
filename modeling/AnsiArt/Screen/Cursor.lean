import AnsiArt.Screen.Cell

/-!
# The cursor

The cursor is the position of the next write together with the **pen**: the cell that a write
copies, made of the current rendition and the character written last.

Motions take any integer and stop at column 0 and row 0; nothing stops a motion at the right or at
the bottom.
-/

namespace AnsiArt

/-- A position (column `x`, row `y`, both from 0) and the pen. -/
structure Cursor where
  x : Int := 0
  y : Int := 0
  pen : Cell := {}
  deriving DecidableEq

namespace Cursor

/-! ### Motions -/

/-- Moves up `n` rows, not above row 0; a negative `n` moves down. -/
def up (c : Cursor) (n : Int) : Cursor := { c with y := max 0 (c.y - n) }

/-- Moves down `n` rows; a negative `n` moves up, not above row 0. -/
def down (c : Cursor) (n : Int) : Cursor := { c with y := max 0 (c.y + n) }

/-- Moves left `n` columns, not before column 0; a negative `n` moves right. -/
def left (c : Cursor) (n : Int) : Cursor := { c with x := max 0 (c.x - n) }

/-- Moves right `n` columns; a negative `n` moves left, not before column 0. -/
def right (c : Cursor) (n : Int) : Cursor := { c with x := max 0 (c.x + n) }

/-- Moves to a column, a negative one meaning column 0. -/
def toColumn (c : Cursor) (x : Int) : Cursor := { c with x := max 0 x }

/-- Moves to a position, negative coordinates meaning 0. -/
def goto (c : Cursor) (x y : Int) : Cursor := { c with x := max 0 x, y := max 0 y }

/-- Moves to the nearest position of a canvas of `w` columns and `h` rows; of an empty canvas, to
the origin. -/
def clamp (c : Cursor) (w h : Int) : Cursor :=
  { c with x := max 0 (min c.x (w - 1)), y := max 0 (min c.y (h - 1)) }

/-- Moves to the start of the next row if the column is past the last of `w` columns. -/
def wrap (c : Cursor) (w : Int) : Cursor :=
  if w ≤ c.x then { c with x := 0, y := c.y + 1 } else c

/-! ### Position and pen -/

/-- The number of the cursor's cell when rows of `w` cells are numbered one after another. -/
def offset (c : Cursor) (w : Int) : Int := c.y * w + c.x

/-- Makes `ch` the character written last. -/
def setChar (c : Cursor) (ch : Char) : Cursor := { c with pen := { c.pen with char := ch } }

/-- Replaces the rendition of the pen. -/
def setRendition (c : Cursor) (r : Rendition) : Cursor :=
  { c with pen := { c.pen with rendition := r } }

/-- Returns the pen to the default rendition and keeps its character. -/
def resetRendition (c : Cursor) : Cursor := c.setRendition {}

end Cursor

end AnsiArt
