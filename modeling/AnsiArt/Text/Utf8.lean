import AnsiArt.Text.CodePoint
import AnsiArt.Text.Hex

/-!
# UTF-8

The text that bytes encode. Reading stops at the first bytes that encode no character, and the
error tells where they stand and what is wrong with them.
-/

namespace AnsiArt

/-- What is wrong with some bytes. -/
inductive Utf8Fault
  /-- No character begins with the byte. -/
  | start
  /-- The next byte does not continue the character. -/
  | continuation
  /-- The bytes end inside the character. -/
  | ending
  deriving DecidableEq

/-- The bytes that encode no character: their fault, the first of them, where it stands, and how
many they are. -/
structure Utf8Error where
  fault : Utf8Fault
  first : UInt8
  position : Nat
  length : Nat
  deriving DecidableEq

/-- The wording of an error. -/
def Utf8Error.message (e : Utf8Error) : String :=
  let reason := match e.fault with
    | .start => "invalid start byte"
    | .continuation => "invalid continuation byte"
    | .ending => "unexpected end of data"
  let bytes :=
    if e.length = 1 then s!"byte 0x{Hex.byte e.first.toNat} in position {e.position}"
    else s!"bytes in position {e.position}-{e.position + e.length - 1}"
  s!"'utf-8' codec can't decode {bytes}: {reason}"

namespace Utf8

/-- A character of which some bytes were read: where it starts, its first byte, the number that its
bytes make up so far, how many more are to come, and the range of the next one. -/
structure Pending where
  start : Nat
  first : UInt8
  number : Nat
  more : Nat
  low : Nat := 0x80
  high : Nat := 0xbf

/-- The character that begins with a byte above 127. The range of the second byte leaves out numbers
that have a shorter form, surrogates, and what is beyond the last code point. -/
def Pending.ofFirst (start : Nat) (b : UInt8) : Option Pending :=
  let n := b.toNat
  if 0xc2 ≤ n ∧ n ≤ 0xdf then some { start, first := b, number := n - 0xc0, more := 1 }
  else if n = 0xe0 then some { start, first := b, number := 0, more := 2, low := 0xa0 }
  else if n = 0xed then some { start, first := b, number := n - 0xe0, more := 2, high := 0x9f }
  else if 0xe1 ≤ n ∧ n ≤ 0xef then some { start, first := b, number := n - 0xe0, more := 2 }
  else if n = 0xf0 then some { start, first := b, number := 0, more := 3, low := 0x90 }
  else if 0xf1 ≤ n ∧ n ≤ 0xf3 then some { start, first := b, number := n - 0xf0, more := 3 }
  else if n = 0xf4 then some { start, first := b, number := 4, more := 3, high := 0x8f }
  else none

/-- The error about a character of which no more can be read at a position. -/
def Pending.error (p : Pending) (fault : Utf8Fault) (position : Nat) : Utf8Error :=
  ⟨fault, p.first, p.start, position - p.start⟩

/-- Reads bytes from a position on, behind the given characters in reverse order and perhaps inside
another one. -/
def decodeFrom (position : Nat) (pending : Option Pending) (done : List Char) :
    List UInt8 → Except Utf8Error (List Char)
  | [] =>
    match pending with
    | none => .ok done.reverse
    | some p => .error (p.error .ending position)
  | b :: rest =>
    match pending with
    | none =>
      if b.toNat < 0x80 then decodeFrom (position + 1) none (Char.ofNat b.toNat :: done) rest
      else
        match Pending.ofFirst position b with
        | some p => decodeFrom (position + 1) (some p) done rest
        | none => .error ⟨.start, b, position, 1⟩
    | some p =>
      if p.low ≤ b.toNat ∧ b.toNat ≤ p.high then
        let number := p.number * 64 + b.toNat % 64
        if p.more = 1 then
          decodeFrom (position + 1) none ((CodePoint.char? number).getD '\ufffd' :: done) rest
        else
          let p : Pending := { start := p.start, first := p.first, number, more := p.more - 1 }
          decodeFrom (position + 1) (some p) done rest
      else .error (p.error .continuation position)

/-- The text that bytes encode. -/
def decode (bytes : List UInt8) : Except Utf8Error (List Char) := decodeFrom 0 none [] bytes

end Utf8

end AnsiArt
