import AnsiArt.Control.Command
import AnsiArt.Notice

/-!
# Control functions

The final letter of a control sequence names a control function, which reads the parameters and
turns them into commands. Reading can fail in the middle; the commands asked for before that stand,
so an interpretation holds the commands **and** the failure.

A motion without a parameter means one step, an erasure without one means mode 0.
-/

namespace AnsiArt

/-- The control functions that are carried out. -/
inductive ControlFunction
  | cursorUp
  | cursorDown
  | cursorRight
  | cursorLeft
  | nextLine
  | precedingLine
  | characterAbsolute
  | cursorPosition
  | eraseInPage
  | eraseInLine
  | insertLine
  | selectRendition
  deriving DecidableEq

/-- What a control sequence asks for: commands, remarks on what was ignored, and the parameter error
that cut the reading short, if there was one. -/
structure Interpretation where
  commands : List Command := []
  notices : List Notice := []
  failure : Option ParameterError := none

namespace Interpretation

/-- Asks for one command. -/
def ask (command : Command) : Interpretation := { commands := [command] }

/-- Continues with a value that was read, or stops with the error. -/
def reading {α : Type} (value : Except ParameterError α) (next : α → Interpretation) :
    Interpretation :=
  match value with
  | .ok v => next v
  | .error e => { failure := some e }

/-- Asks for a command before all others. -/
def after (command : Command) (i : Interpretation) : Interpretation :=
  { i with commands := command :: i.commands }

end Interpretation

namespace ControlFunction

/-- The control function of a final letter. The letters `H` and `f` share one. -/
def ofFinal? (final : UInt8) : Option ControlFunction :=
  if final = 0x41 then some cursorUp
  else if final = 0x42 then some cursorDown
  else if final = 0x43 then some cursorRight
  else if final = 0x44 then some cursorLeft
  else if final = 0x45 then some nextLine
  else if final = 0x46 then some precedingLine
  else if final = 0x47 then some characterAbsolute
  else if final = 0x48 then some cursorPosition
  else if final = 0x4a then some eraseInPage
  else if final = 0x4b then some eraseInLine
  else if final = 0x4c then some insertLine
  else if final = 0x66 then some cursorPosition
  else if final = 0x6d then some selectRendition
  else none

open Interpretation in
/-- What a control function makes of its parameters. The column of a motion to another line is reset
before its parameter is read; every other function reads all it needs first. -/
def interpret (f : ControlFunction) (ps : Parameters) : Interpretation :=
  match f with
  | cursorUp => reading (ps.param 0 1) fun n => ask (.up n)
  | cursorDown => reading (ps.param 0 1) fun n => ask (.down n)
  | cursorRight => reading (ps.param 0 1) fun n => ask (.right n)
  | cursorLeft => reading (ps.param 0 1) fun n => ask (.left n)
  | nextLine => after .carriageReturn (reading (ps.param 0 1) fun n => ask (.down n))
  | precedingLine => after .carriageReturn (reading (ps.param 0 1) fun n => ask (.up n))
  | characterAbsolute => reading (ps.param 0 1) fun n => ask (.toColumn (n - 1))
  | cursorPosition =>
    reading (ps.param 0 1) fun row =>
      reading (ps.param 1 1) fun column => ask (.goto (column - 1) (row - 1))
  | eraseInPage =>
    reading (ps.param 0 0) fun mode =>
      ask (.erasePage (if mode = 0 then .fromCursor else if mode = 1 then .toCursor else .whole))
  | eraseInLine =>
    reading (ps.param 0 0) fun mode =>
      if mode = 0 then ask (.eraseLine .fromCursor)
      else if mode = 1 then ask (.eraseLine .toCursor)
      else if mode = 2 then ask (.eraseLine .whole)
      else { notices := [.unsupportedEraseMode mode] }
  | insertLine => reading (ps.param 0 1) fun n => ask (.insertLines n)
  | selectRendition =>
    reading ps.ints fun values =>
      let codes := if values.isEmpty then [0] else values
      { commands := [.select codes]
        notices := (codes.filter fun n => (RenditionChange.ofCode? n).isNone).map
          .unsupportedRendition }

end ControlFunction

end AnsiArt
