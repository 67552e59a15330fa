import AnsiArt.Screen.Canvas

/-!
# The drawn part of a canvas

All renderings walk the same grid: the rows and columns that were written to, whatever the size of
the canvas. Positions that hold no cell are part of the grid.

Main statement: `Canvas.getElem?_grid`, the grid holds the cells at their positions.
-/

namespace AnsiArt.Canvas

/-- The cells of row `y` up to the last column written to. -/
def gridRow (c : Canvas) (y : Nat) : List (Option Cell) :=
  (List.range c.written.columns).map fun x => c.cellAt (x : Nat) y

/-- The rows from the first to the last one written to. -/
def grid (c : Canvas) : List (List (Option Cell)) :=
  (List.range c.written.rows).map c.gridRow

@[simp] theorem length_grid (c : Canvas) : c.grid.length = c.written.rows := by simp [grid]

@[simp] theorem length_gridRow (c : Canvas) (y : Nat) :
    (c.gridRow y).length = c.written.columns := by simp [gridRow]

/-- Row `y` and column `x` of the grid hold the cell at that position. -/
theorem getElem?_grid (c : Canvas) {x y : Nat} (hy : y < c.written.rows)
    (hx : x < c.written.columns) : (c.grid[y]?.bind (·[x]?)) = some (c.cellAt x y) := by
  simp [grid, gridRow, hy, hx]

end AnsiArt.Canvas
