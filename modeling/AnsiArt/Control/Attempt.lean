import AnsiArt.Control.Command

/-!
# Attempts

A command that adds slots may find no room for them. What it did before that stands: a write has
already put its character on the pen, and an insertion has already moved the cursor onto the canvas
and inserted the lines for which there was room.

An attempt without a limit on a sound canvas is the same as running the command
(`attempt_unlimited`).
-/

namespace AnsiArt

/-- A canvas after an attempt, and what kept the attempt from being completed. -/
structure Attempt where
  canvas : Canvas
  shortage : Option Shortage := none

namespace Canvas

/-- Grows the canvas so that slot `o` exists, if there is room. -/
def tryExpand (room : Room) (c : Canvas) (o : Int) : Attempt :=
  match room.shortage? c.size (max 0 (o + 1 - c.size)) with
  | some s => ⟨c, some s⟩
  | none => ⟨c.expand o, none⟩

/-- Inserts empty slots, if there is room for the growth up to slot `o` and for the new slots. -/
def tryInsertBlank (room : Room) (c : Canvas) (o n : Int) : Attempt :=
  let gap := max 0 (o - c.size)
  match room.shortage? c.size gap with
  | some s => ⟨c, some s⟩
  | none =>
    match room.shortage? (c.size + gap.toNat) n with
    | some s => ⟨c.insertBlank o 0, some s⟩
    | none => ⟨c.insertBlank o n, none⟩

/-- Writes a character, if there is room for its slot and the slot is there. -/
def tryWrite (room : Room) (c : Canvas) (ch : Char) : Attempt :=
  let o := c.cursor.offset c.width
  match (c.setChar ch).tryExpand room o with
  | ⟨c, some s⟩ => ⟨c, some s⟩
  | ⟨c, none⟩ =>
    match c.occupy o with
    | (c, none) => ⟨c, some .noSlot⟩
    | (c, some _) => ⟨c.stamp o, none⟩

/-- Writes blanks up to the first one without room. -/
def tryBlanks (room : Room) (c : Canvas) : Nat → Attempt
  | 0 => ⟨c, none⟩
  | n + 1 =>
    match c.tryWrite room ' ' with
    | ⟨c, none⟩ => c.tryBlanks room n
    | ⟨c, some s⟩ => ⟨c, some s⟩

/-- Inserts empty rows at row `y`, up to the first one without room. -/
def tryInsertRows (room : Room) (c : Canvas) (y : Int) : Nat → Attempt
  | 0 => ⟨c, none⟩
  | n + 1 =>
    match c.tryInsertBlank room (y * c.width) c.width with
    | ⟨c, none⟩ => c.tryInsertRows room y n
    | ⟨c, some s⟩ => ⟨c, some s⟩

/-- Inserts empty lines at the cursor's line, up to the first one without room. The cursor has been
moved onto the canvas even if there is no room for any. -/
def tryInsertLines (room : Room) (c : Canvas) (n : Int) : Attempt :=
  let c := c.normalize
  c.tryInsertRows room c.cursor.y n.toNat

end Canvas

/-- Attempts a command. Only three commands add slots. -/
def Command.attempt (room : Room) (c : Canvas) (command : Command) : Attempt :=
  match command with
  | write ch => c.tryWrite room ch
  | tab => c.tryBlanks room (Canvas.tabBlanks c.cursor.x)
  | insertLines n => c.tryInsertLines room n
  | other => ⟨other.run c, none⟩

/-- Attempts commands one after another, up to the first that finds no room. -/
def Canvas.attemptAll (room : Room) (c : Canvas) : List Command → Attempt
  | [] => ⟨c, none⟩
  | command :: rest =>
    match command.attempt room c with
    | ⟨c, none⟩ => c.attemptAll room rest
    | ⟨c, some s⟩ => ⟨c, some s⟩

end AnsiArt
