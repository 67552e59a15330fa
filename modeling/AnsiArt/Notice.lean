import AnsiArt.Control.Parameters
import AnsiArt.Screen.Room

/-!
# Notices

What the program reports while it works: progress, what it ignored in a stream, and what went wrong.
A notice is kept as what it says; its level, the part of the program that speaks, and its wording
are functions of that.
-/

namespace AnsiArt

/-- How important a notice is. -/
inductive Level
  | debug
  | info
  | warning
  | error
  deriving DecidableEq

/-- The name of a level. -/
def Level.name : Level → String
  | debug => "DEBUG"
  | info => "INFO"
  | warning => "WARNING"
  | error => "ERROR"

/-- The rank of a level: a more important one has a higher rank. -/
def Level.rank : Level → Nat
  | debug => 0
  | info => 1
  | warning => 2
  | error => 3

/-- Why a control sequence was not carried out to its end. -/
inductive SequenceError
  | parameter (cause : ParameterError)
  | noRoom (cause : Shortage)
  deriving DecidableEq

/-- The wording of a failed control sequence. -/
def SequenceError.message : SequenceError → String
  | parameter cause => cause.message
  | noRoom cause => cause.message

/-- Something worth reporting. -/
inductive Notice
  /-- A control sequence with a final letter that has no control function. -/
  | unsupportedSequence (parameters : List UInt8) (final : UInt8)
  /-- A control function that could not read one of its parameters, or found no room. -/
  | failedSequence (parameters : List UInt8) (final : UInt8) (cause : SequenceError)
  /-- A mode of "erase in line" without a meaning. -/
  | unsupportedEraseMode (mode : Int)
  /-- A number of "select graphic rendition" without a meaning. -/
  | unsupportedRendition (code : Int)
  /-- A read that failed and so ended the stream. -/
  | readFailure (message : String)
  /-- The extent of the screen after the last byte. -/
  | screenSize (columns rows : Nat)
  /-- The size of a canvas about to be made. -/
  | creatingCanvas (width height : Int)
  /-- A file without a metadata record. -/
  | noMetadata (path : String)
  /-- The title and the author of a file. -/
  | credits (path title author : String)
  deriving DecidableEq

namespace Notice

/-- How important a notice is. -/
def level : Notice → Level
  | unsupportedSequence .. => .debug
  | failedSequence .. => .error
  | unsupportedEraseMode _ => .debug
  | unsupportedRendition _ => .debug
  | readFailure _ => .warning
  | screenSize .. => .info
  | creatingCanvas .. => .info
  | noMetadata _ => .info
  | credits .. => .info

/-- The part of the program that speaks. -/
def source : Notice → String
  | unsupportedSequence .. => "art_engine.emulator"
  | failedSequence .. => "art_engine.emulator"
  | unsupportedEraseMode _ => "art_engine.opcodes"
  | unsupportedRendition _ => "art_engine.opcodes"
  | readFailure _ => "art_engine.emulator"
  | screenSize .. => "art_engine.emulator"
  | creatingCanvas .. => "art_engine.loader"
  | noMetadata _ => "art_engine.loader"
  | credits .. => "art_engine.cli"

/-- Bytes as characters of the same number. -/
def latin1 (bytes : List UInt8) : String :=
  String.ofList (bytes.map fun b => Char.ofNat b.toNat)

/-- A byte as two hexadecimal digits. -/
def hexByte (b : UInt8) : String :=
  String.ofList [Nat.digitChar (b.toNat / 16), Nat.digitChar (b.toNat % 16)]

/-- A control sequence in readable form. -/
def sequence (parameters : List UInt8) (final : UInt8) : String :=
  s!"<ESC>[{latin1 parameters}{latin1 [final]}"

/-- The wording of a notice. -/
def message : Notice → String
  | unsupportedSequence ps final =>
    s!"unsupported ANSI sequence {sequence ps final} (0x{hexByte final})"
  | failedSequence ps final cause =>
    s!"handler for {sequence ps final} failed: {cause.message}"
  | unsupportedEraseMode mode => s!"unsupported EL mode {mode}"
  | unsupportedRendition code => s!"unsupported SGR {code}"
  | readFailure text => s!"read error, stopping: {text}"
  | screenSize columns rows => s!"screen at {columns} x {rows}"
  | creatingCanvas width height => s!"creating {width} x {height} buffer"
  | noMetadata path => s!"{path}: no SAUCE record"
  | credits path title author => s!"{path}: \"{title}\" by {author}"

end Notice

/-- A result together with what was reported on the way, the earliest notice first. -/
structure Logged (α : Type) where
  value : α
  log : List Notice := []

end AnsiArt
