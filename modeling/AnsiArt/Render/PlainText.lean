import AnsiArt.Render.Grid

/-!
# Plain text

The rendering that keeps only the characters: one line for each row of the grid, a blank for each
position without a cell.
-/

namespace AnsiArt

/-- The character at a position of the grid. -/
def shownChar (cell : Option Cell) : Char := (cell.getD {}).char

namespace Canvas

/-- A row of the grid as text. -/
def textRow (row : List (Option Cell)) : List Char := row.map shownChar

/-- The characters of the whole grid, each row ended by a line feed. -/
def plainChars (c : Canvas) : List Char := c.grid.flatMap fun row => textRow row ++ ['\n']

/-- The whole grid as text. -/
def plainText (c : Canvas) : String := String.ofList c.plainChars

end Canvas

end AnsiArt
