import AnsiArt.Control.Attempt
import AnsiArt.Control.Decoder

/-!
# The terminal

A terminal is a decoder and a canvas: each byte goes through the decoder, and the commands that it
completes are attempted on the canvas.

A control sequence that finds no room is reported, and the stream goes on behind it. Any other byte
that finds no room stops the terminal in front of it.

Without a limit, feeding bytes is running all commands of the byte stream
(`Terminal.feed_unlimited`), so the two halves of a terminal can be reasoned about apart.
-/

namespace AnsiArt

/-- A decoder and the canvas that its commands go to. -/
structure Terminal where
  decoder : Decoder := {}
  canvas : Canvas

/-- How far a terminal has come: what was reported, the latest notice first, and the shortage that
stopped it, if there was one. -/
structure Progress where
  terminal : Terminal
  reversedLog : List Notice := []
  shortage : Option Shortage := none

/-- What was reported, the earliest notice first. -/
def Progress.log (p : Progress) : List Notice := p.reversedLog.reverse

namespace Terminal

/-- A terminal of the usual size unless told otherwise. -/
def defaultWidth : Int := 80

/-- The usual initial height. -/
def defaultHeight : Int := 25

/-- A fresh terminal with an empty canvas of the requested size. -/
def ofSize (room : Room) (width height : Int) : Except SizeError Terminal :=
  (Canvas.ofSize room width height).map fun canvas => { canvas }

/-- Whether no further byte has an effect. -/
def finished (t : Terminal) : Bool := t.decoder.mode == .finished

/-! ### Feeding bytes -/

/-- Processes one byte. -/
def step (room : Room) (t : Terminal) (b : UInt8) : Progress :=
  let d := t.decoder
  match t.canvas.attemptAll room (d.commands b) with
  | ⟨canvas, none⟩ => ⟨⟨d.next b, canvas⟩, (d.notices b).reverse, none⟩
  | ⟨canvas, some s⟩ =>
    if d.mode = .sequence then
      let failure := Notice.failedSequence d.parameters.flush.text b (.noRoom s)
      ⟨⟨d.next b, canvas⟩, [failure], none⟩
    else ⟨⟨d, canvas⟩, [], some s⟩

/-- Goes on with one byte, unless the terminal was stopped. -/
def advance (room : Room) (p : Progress) (b : UInt8) : Progress :=
  match p with
  | ⟨t, log, none⟩ =>
    let ⟨t, more, shortage⟩ := t.step room b
    ⟨t, more ++ log, shortage⟩
  | ⟨t, log, some s⟩ => ⟨t, log, some s⟩

/-- Processes a row of bytes up to the first that stops the terminal. -/
def feed (room : Room) (t : Terminal) (bytes : List UInt8) : Progress :=
  bytes.foldl (advance room) { terminal := t }

/-- Ends the input. -/
def finish (t : Terminal) : Terminal := { t with decoder := t.decoder.finish }

/-- The notice about the size of the screen that ends a stream. -/
def screenNotice (t : Terminal) : Notice :=
  .screenSize (t.canvas.reached.columns + 1) (t.canvas.reached.rows + 1)

/-- Processes a whole byte string as one stream. A terminal that was stopped is not finished. -/
def parse (room : Room) (t : Terminal) (bytes : List UInt8) : Progress :=
  match t.feed room bytes with
  | ⟨t, log, none⟩ => ⟨t.finish, t.screenNotice :: log, none⟩
  | ⟨t, log, some s⟩ => ⟨t, log, some s⟩

/-! ### Reading a stream -/

/-- The outcome of one read from a stream. -/
inductive ReadOutcome
  /-- The next bytes; none mean the end of the stream. -/
  | bytes (data : List UInt8)
  /-- No answer, which also means the end of the stream. -/
  | nothing
  /-- A failure of the stream, which ends it like its end would. -/
  | failure (message : String)
  /-- A failure that the reader does not handle. -/
  | fault (message : String)
  deriving DecidableEq

/-- What ends a reading without finishing the terminal. -/
inductive ReadFault
  | unhandled (message : String)
  | noRoom (cause : Shortage)
  deriving DecidableEq

/-- What reading a stream leaves behind: the terminal, the notices, the number of reads, and what
ended it early, if anything did. -/
structure Reading where
  terminal : Terminal
  log : List Notice
  reads : Nat
  fault : Option ReadFault := none

/-- Ends a stream after its last read. -/
def endReading (t : Terminal) (reads : Nat) (log : List Notice := []) : Reading :=
  ⟨t.finish, log ++ [t.screenNotice], reads, none⟩

/-- Reads until the stream ends or a byte ends the text; `reads` reads were made before. A stream
whose outcomes are used up is at its end. -/
def readFrom (room : Room) (t : Terminal) (reads : Nat) (outcomes : List ReadOutcome) : Reading :=
  if t.finished then t.endReading reads
  else
    match outcomes with
    | [] => t.endReading (reads + 1)
    | .bytes [] :: _ => t.endReading (reads + 1)
    | .nothing :: _ => t.endReading (reads + 1)
    | .failure message :: _ => t.endReading (reads + 1) [.readFailure message]
    | .fault message :: _ => ⟨t, [], reads + 1, some (.unhandled message)⟩
    | .bytes (b :: bs) :: rest =>
      match t.feed room (b :: bs) with
      | ⟨t, log, some s⟩ => ⟨t, log.reverse, reads + 1, some (.noRoom s)⟩
      | ⟨t, log, none⟩ =>
        let r := t.readFrom room (reads + 1) rest
        { r with log := log.reverse ++ r.log }

/-- Reads a whole stream. -/
def read (room : Room) (t : Terminal) (outcomes : List ReadOutcome) : Reading :=
  t.readFrom room 0 outcomes

/-- The most bytes asked for in one read. -/
def readSize : Nat := 4096

/-- Cuts bytes into pieces of `size`, the last one perhaps shorter. -/
def pieces (size : Nat) (bytes : List UInt8) : List (List UInt8) :=
  if _h : size = 0 ∨ bytes = [] then []
  else bytes.take size :: pieces size (bytes.drop size)
termination_by bytes.length
decreasing_by
  have : 0 < bytes.length := List.length_pos_iff.mpr (by simp_all)
  simp only [List.length_drop]
  omega

/-- Reads a file that holds the given bytes. -/
def readPieces (room : Room) (t : Terminal) (bytes : List UInt8) : Reading :=
  t.read room ((pieces readSize bytes).map .bytes)

end Terminal

end AnsiArt
