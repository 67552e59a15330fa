import AnsiArt.Fonts.Audit
import AnsiArt.Palette.Basic
import AnsiArt.Render.Grid
import AnsiArt.Render.Look

/-!
# Images

The rendering as an image, given by the drawing calls that make it: for each cell of the grid a
filled rectangle, then its character, then the lines below it. A character that no font can show is
replaced by a question mark in the primary font.
-/

namespace AnsiArt

/-- One call to the drawing surface. Rectangles and lines include their ends. -/
inductive DrawCall
  | rectangle (box : Box) (fill : Colour)
  | text (left top : Int) (char : Char) (fill : Colour) (font : String)
  | line (x₀ y₀ x₁ y₁ : Int) (fill : Colour)
  deriving DecidableEq

/-- The size and the ground of an image and the calls that draw it. -/
structure Image where
  size : Extent
  background : Colour
  calls : List DrawCall

namespace Image

/-- The character drawn in place of one that no font can show. -/
def missingGlyph : Char := '?'

/-- The character to draw for a character and the font to draw it in. -/
def glyphFor (s : FontStack) (c : Char) : Char × Font :=
  match s.fontFor? c with
  | some font => (c, font)
  | none => (missingGlyph, s.primary.font)

/-- The rectangle of a cell at a column and a row. -/
def cellBox (e : Extent) (x y : Nat) : Box :=
  let left := x * e.width
  let top := y * e.height
  ⟨left, top, left + e.width - 1, top + e.height - 1⟩

/-- The line along the cell at a height, from its left to its right side. -/
def lineAt (box : Box) (y : Int) (fill : Colour) : DrawCall :=
  .line box.left y box.right y fill

/-- The calls for one cell. -/
def cellCalls (p : Palette) (s : FontStack) (x y : Nat) (cell : Cell) : List DrawCall :=
  let r := cell.rendition
  let box := cellBox s.cell x y
  let ink := p.cyclic r.look.foreground
  let text :=
    if needsGlyph cell.char then
      let (c, font) := glyphFor s cell.char
      [DrawCall.text box.left box.top c ink font.label]
    else []
  let underline :=
    if r.has .underline || r.has .doubleUnderline then [lineAt box box.bottom ink] else []
  let second := if r.has .doubleUnderline then [lineAt box (box.bottom - 2) ink] else []
  .rectangle box (p.cyclic r.look.background) :: text ++ underline ++ second

/-- The calls for a row of the grid. -/
def rowCalls (p : Palette) (s : FontStack) (y : Nat) (row : List (Option Cell)) : List DrawCall :=
  row.zipIdx.flatMap fun (cell, x) => (cell.map (cellCalls p s x y)).getD []

/-- The image of a canvas, at least one unit wide and high. The ground has the colour of the default
background. -/
def ofCanvas (c : Canvas) (p : Palette) (s : FontStack) : Image where
  size := ⟨max 1 (c.written.columns * s.cell.width), max 1 (c.written.rows * s.cell.height)⟩
  background := p.cyclic ({} : Rendition).background
  calls := c.grid.zipIdx.flatMap fun (row, y) => rowCalls p s y row

end Image

end AnsiArt
