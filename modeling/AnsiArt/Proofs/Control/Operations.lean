import AnsiArt.Proofs.Control.Quiet

/-!
# Everything a canvas can be asked

A canvas can also be driven by hand, through its own operations, those of its cursor, and the
control functions, with any integers. All of them extend the canvas, so from a fresh one no row of
them leads to a negative position or loses a slot (`Canvas.extends_performAll`).
-/

namespace AnsiArt

/-- An operation of the cursor. -/
inductive Motion
  | up (n : Int)
  | down (n : Int)
  | left (n : Int)
  | right (n : Int)
  | goto (x y : Int)
  | clamp (w h : Int)
  | wrap (w : Int)
  | resetRendition

/-- An operation of the canvas, of its cursor, or of a control function on it. -/
inductive Operation
  | write (ch : Char)
  | occupy (o : Int)
  | clear
  | clearAt (o : Int)
  | clearFrom (o : Int)
  | clearTo (o : Int)
  | insertBlank (o n : Int)
  | expand (o : Int)
  | normalize
  | motion (m : Motion)
  | control (f : ControlFunction) (ps : Parameters)

/-- The cursor after an operation of its own. -/
def Motion.run (k : Cursor) : Motion → Cursor
  | up n => k.up n
  | down n => k.down n
  | left n => k.left n
  | right n => k.right n
  | goto x y => k.goto x y
  | clamp w h => k.clamp w h
  | wrap w => k.wrap w
  | resetRendition => k.resetRendition

/-- The canvas after an operation, as far as there was room for it. -/
def Operation.perform (room : Room) (c : Canvas) : Operation → Canvas
  | write ch => (c.tryWrite room ch).canvas
  | occupy o => (c.occupy o).1
  | clear => c.clear
  | clearAt o => c.clearAt o
  | clearFrom o => c.clearFrom o
  | clearTo o => c.clearTo o
  | insertBlank o n => (c.tryInsertBlank room o n).canvas
  | expand o => (c.tryExpand room o).canvas
  | normalize => c.normalize
  | motion m => c.move fun k => m.run k
  | control f ps => (f.handle room c ps).canvas

/-- The canvas after a row of operations. -/
def Canvas.performAll (room : Room) (c : Canvas) (operations : List Operation) : Canvas :=
  operations.foldl (Operation.perform room) c

theorem Cursor.Nonneg.run {k : Cursor} (h : k.Nonneg) (m : Motion) : (m.run k).Nonneg := by
  cases m with
  | up n => exact h.up n
  | down n => exact h.down n
  | left n => exact h.left n
  | right n => exact h.right n
  | goto x y => exact Cursor.nonneg_goto k x y
  | clamp w h => exact Cursor.nonneg_clamp k w h
  | wrap w => exact h.wrap w
  | resetRendition => exact ⟨h.1, h.2⟩

namespace Canvas

/-- **Every operation extends the canvas.** -/
theorem extends_perform (room : Room) (c : Canvas) (operation : Operation) :
    c.Extends (operation.perform room c) := by
  cases operation with
  | write ch => exact extends_tryWrite room c ch
  | occupy o => exact (quiet_occupy c o).toExtends
  | clear => exact (quiet_clear c).toExtends
  | clearAt o | clearFrom o | clearTo o => exact (quiet_clearRange ..).toExtends
  | insertBlank o n => exact (quiet_tryInsertBlank room c o n).toExtends
  | expand o => exact (quiet_tryExpand room c o).toExtends
  | normalize => exact (quiet_normalize c).toExtends
  | motion m => exact (quiet_move c (fun k => m.run k) fun hk => hk.run m).toExtends
  | control f ps => exact (quiet_handle room c ps f).toExtends

theorem extends_performAll (room : Room) (c : Canvas) (operations : List Operation) :
    c.Extends (c.performAll room operations) := by
  induction operations generalizing c with
  | nil => exact .refl c
  | cons operation rest ih => exact (extends_perform room c operation).trans (ih _)

end Canvas

end AnsiArt
