import AnsiArt.Screen.Canvas
import AnsiArt.Control.RenditionChange

/-!
# Commands

A command is one thing that a byte stream can ask of the canvas. What a stream asks for does not
depend on the canvas, only what comes of it does; that split is the reason for this type.
-/

namespace AnsiArt

/-- A part of a page or of a line, seen from the cursor. Both parts hold the cursor's own cell. -/
inductive Region
  | fromCursor
  | toCursor
  | whole
  deriving DecidableEq

/-- One request to the canvas. -/
inductive Command
  | write (ch : Char)
  | tab
  | lineFeed
  | carriageReturn
  | up (n : Int)
  | down (n : Int)
  | left (n : Int)
  | right (n : Int)
  | toColumn (x : Int)
  | goto (x y : Int)
  | erasePage (region : Region)
  | eraseLine (region : Region)
  | insertLines (n : Int)
  | select (codes : List Int)
  deriving DecidableEq

namespace Canvas

/-- Moves the cursor by a function on cursors. -/
def move (c : Canvas) (f : Cursor → Cursor) : Canvas := { c with cursor := f c.cursor }

/-- The columns between two tab stops. -/
def tabStop : Nat := 8

/-- How many blanks a tab writes in column `x`: up to the column before the next tab stop, and none
if that is where the cursor stands. -/
def tabBlanks (x : Int) : Nat :=
  if (x + 1) % tabStop = 0 then 0 else (tabStop - (x + 1) % tabStop).toNat

/-- Writes a row of blanks. -/
def writeBlanks (c : Canvas) : Nat → Canvas
  | 0 => c
  | n + 1 => (c.write ' ').writeBlanks n

/-- Writes the blanks of a tab. Their number is fixed before the first of them is written. -/
def tab (c : Canvas) : Canvas := c.writeBlanks (tabBlanks c.cursor.x)

/-- Empties a part of the page. -/
def erasePage (c : Canvas) : Region → Canvas
  | .fromCursor => c.clearFrom (c.cursor.offset c.width)
  | .toCursor => c.clearTo (c.cursor.offset c.width)
  | .whole => c.clear

/-- Empties a part of the cursor's line. -/
def eraseLine (c : Canvas) (region : Region) : Canvas :=
  let x := c.cursor.x
  let y := c.cursor.y
  match region with
  | .fromCursor => c.clearRange (c.offset x y) (c.offset 0 (y + 1))
  | .toCursor => c.clearRange (c.offset 0 y) (c.offset x y + 1)
  | .whole => c.clearRange (c.offset 0 y) (c.offset 0 (y + 1))

/-- Inserts one empty row at row `y`, and again until `n` rows are inserted. -/
def insertRows (c : Canvas) (y : Int) : Nat → Canvas
  | 0 => c
  | n + 1 => (c.insertBlank (y * c.width) c.width).insertRows y n

/-- Inserts `n` empty lines at the cursor's line, the cursor being moved onto the canvas first. -/
def insertLines (c : Canvas) (n : Int) : Canvas :=
  let c := c.normalize
  c.insertRows c.cursor.y n.toNat

/-- Changes the rendition of the pen. -/
def select (c : Canvas) (codes : List Int) : Canvas :=
  c.move fun k => k.setRendition (k.pen.rendition.selectAll codes)

end Canvas

/-- What a command does to a canvas. -/
def Command.run (c : Canvas) : Command → Canvas
  | write ch => c.write ch
  | tab => c.tab
  | lineFeed => c.move fun k => { k with y := k.y + 1 }
  | carriageReturn => c.move fun k => { k with x := 0 }
  | up n => c.move (·.up n)
  | down n => c.move (·.down n)
  | left n => c.move (·.left n)
  | right n => c.move (·.right n)
  | toColumn x => c.move (·.toColumn x)
  | goto x y => c.move (·.goto x y)
  | erasePage region => c.erasePage region
  | eraseLine region => c.eraseLine region
  | insertLines n => c.insertLines n
  | select codes => c.select codes

/-- Carries out commands one after another. -/
def Canvas.runAll (c : Canvas) (commands : List Command) : Canvas := commands.foldl Command.run c

end AnsiArt
