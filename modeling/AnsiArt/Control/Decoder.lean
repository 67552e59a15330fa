import AnsiArt.Control.Function
import AnsiArt.Text.CodePage437

/-!
# The byte decoder

The decoder turns a byte stream into commands. It is a machine of four modes that never looks at the
canvas:

* in **text**, a byte is a character or one of the controls LF, CR, TAB, ESC and SUB;
* after an **escape**, `[` introduces a control sequence, and any other byte is written as text
  after the escape character itself;
* in a **sequence**, bytes are collected until an ASCII letter ends it;
* when **finished**, which SUB and the end of input bring about, nothing has an effect.
-/

namespace AnsiArt

/-- What the decoder expects next. -/
inductive Mode
  | text
  | escape
  | sequence
  | finished
  deriving DecidableEq

/-- A mode and the parameters collected so far. -/
structure Decoder where
  mode : Mode := .text
  parameters : Parameters := {}
  deriving DecidableEq

namespace Decoder

/-! ### Bytes with a meaning -/

/-- Horizontal tab. -/
def byteTAB : UInt8 := 0x09

/-- Line feed. -/
def byteLF : UInt8 := 0x0a

/-- Carriage return. -/
def byteCR : UInt8 := 0x0d

/-- The end of the text; a metadata record may follow. -/
def byteSUB : UInt8 := 0x1a

/-- Escape. -/
def byteESC : UInt8 := 0x1b

/-- The bracket that introduces a control sequence after an escape. -/
def byteBracket : UInt8 := 0x5b

/-- The semicolon between parameters. -/
def byteSemicolon : UInt8 := 0x3b

/-- The ASCII letters end a control sequence. -/
def isFinal (b : UInt8) : Bool := (0x41 ≤ b && b ≤ 0x5a) || (0x61 ≤ b && b ≤ 0x7a)

/-! ### One byte -/

/-- The decoder after a byte. -/
def next (d : Decoder) (b : UInt8) : Decoder :=
  match d.mode with
  | .text =>
    if b = byteSUB then { d with mode := .finished }
    else if b = byteESC then { d with mode := .escape }
    else d
  | .escape => { d with mode := if b = byteBracket then .sequence else .text }
  | .sequence =>
    if b = byteSemicolon then { d with parameters := d.parameters.flush }
    else if isFinal b then {}
    else { d with parameters := d.parameters.push b }
  | .finished => d

/-- What a byte asks for in text mode. -/
def textCommands (b : UInt8) : List Command :=
  if b = byteSUB ∨ b = byteESC then []
  else if b = byteLF then [.lineFeed]
  else if b = byteCR then [.carriageReturn]
  else if b = byteTAB then [.tab]
  else [.write (CodePage437.decode b)]

/-- What a complete control sequence asks for: nothing, if its letter has no control function. -/
def sequenceCommands (ps : Parameters) (final : UInt8) : List Command :=
  ((ControlFunction.ofFinal? final).map fun f => (f.interpret ps).commands).getD []

/-- The commands that a byte completes. -/
def commands (d : Decoder) (b : UInt8) : List Command :=
  match d.mode with
  | .text => textCommands b
  | .escape =>
    if b = byteBracket then []
    else [.write (CodePage437.decode byteESC), .write (CodePage437.decode b)]
  | .sequence => if isFinal b then sequenceCommands d.parameters.flush b else []
  | .finished => []

/-- What is reported about a complete control sequence. -/
def sequenceNotices (ps : Parameters) (final : UInt8) : List Notice :=
  match ControlFunction.ofFinal? final with
  | none => [.unsupportedSequence ps.text final]
  | some f =>
    let i := f.interpret ps
    i.notices ++ (i.failure.map fun e => .failedSequence ps.text final (.parameter e)).toList

/-- What is reported about a byte. -/
def notices (d : Decoder) (b : UInt8) : List Notice :=
  match d.mode with
  | .sequence => if isFinal b then sequenceNotices d.parameters.flush b else []
  | _ => []

/-! ### Many bytes -/

/-- The decoder after a row of bytes. -/
def nextAll (d : Decoder) (bytes : List UInt8) : Decoder := bytes.foldl next d

/-- Everything reported about a row of bytes. -/
def report (d : Decoder) : List UInt8 → List Notice
  | [] => []
  | b :: rest => d.notices b ++ (d.next b).report rest

/-- All commands of a row of bytes. -/
def commandsAll (d : Decoder) : List UInt8 → List Command
  | [] => []
  | b :: rest => d.commands b ++ (d.next b).commandsAll rest

/-- Stops decoding and forgets an incomplete sequence. -/
def finish (_ : Decoder) : Decoder := { mode := .finished }

end Decoder

end AnsiArt
