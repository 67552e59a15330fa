import AnsiArt.Index
import AnsiArt.Text.Numeral

/-!
# Parameters of a control sequence

The bytes between the introducer of a control sequence and its final letter are its parameters,
separated by semicolons. They are collected byte by byte and read only when a control function asks
for them, so that a malformed parameter is ignored by the functions that do not need it.

A parameter is read as a number if it is a row of digits with at most one sign in front. Any other
text is **malformed** and counts as 0; an empty or absent parameter stands for the default of the
function that reads it.
-/

namespace AnsiArt

/-- The parameters closed so far and the bytes of the one still open. -/
structure Parameters where
  closed : Array (Array UInt8) := #[]
  pending : Array UInt8 := #[]
  deriving DecidableEq

/-- Why a parameter cannot be read. -/
inductive ParameterError
  | tooLong (e : Numeral.TooLong)
  | outOfRange
  | notIndex
  deriving DecidableEq

/-- The wording of a parameter error. -/
def ParameterError.message : ParameterError → String
  | tooLong e => e.message
  | outOfRange => "list index out of range"
  | notIndex => notIndexMessage

namespace Parameters

/-! ### Collecting -/

/-- No parameter yet. -/
def empty : Parameters := {}

/-- Adds a byte to the open parameter. -/
def push (ps : Parameters) (b : UInt8) : Parameters := { ps with pending := ps.pending.push b }

/-- Closes the open parameter. -/
def flush (ps : Parameters) : Parameters := ⟨ps.closed.push ps.pending, #[]⟩

/-- The number of closed parameters. -/
def size (ps : Parameters) : Nat := ps.closed.size

/-- The closed parameters, joined by semicolons. -/
def text (ps : Parameters) : List UInt8 :=
  [0x3b].intercalate (ps.closed.toList.map Array.toList)

/-- Collects a body whole: a semicolon closes a parameter, and so does the end. -/
def ofBody (body : List UInt8) : Parameters :=
  (body.foldl (fun ps b => if b = 0x3b then ps.flush else ps.push b) empty).flush

/-! ### Reading -/

/-- The value of an ASCII digit. -/
def digit? (b : UInt8) : Option Nat :=
  if 0x30 ≤ b ∧ b ≤ 0x39 then some (b.toNat - 0x30) else none

/-- The values of a row of at least one digit. -/
def digits? (text : List UInt8) : Option (List Nat) :=
  if text.isEmpty then none else text.mapM digit?

/-- The sign and the digits of a well-formed parameter. -/
def signedDigits? : List UInt8 → Option (Bool × List Nat)
  | 0x2d :: ds => (digits? ds).map (true, ·)
  | 0x2b :: ds => (digits? ds).map (false, ·)
  | ds => (digits? ds).map (false, ·)

/-- The number that a parameter spells; `none` if it is malformed. -/
def integer? (text : List UInt8) : Except ParameterError (Option Int) :=
  match signedDigits? text with
  | none => .ok none
  | some (negative, ds) => ((Numeral.ofDecimal negative ds).mapError .tooLong).map some

/-- The number in parameter `n`; 0 if it is absent or malformed. -/
def intAt (ps : Parameters) (n : Int) : Except ParameterError Int :=
  if 0 ≤ n then
    match ps.closed[n.toNat]? with
    | none => .ok 0
    | some text => (integer? text.toList).map (·.getD 0)
  else .ok 0

/-- The number in parameter `n`, with a default for an absent or empty one. A negative `n` counts
from the end, but only to tell an empty parameter from another, which reads as 0. -/
def param (ps : Parameters) (n default : Int) : Except ParameterError Int :=
  let i := if n < 0 then n + ps.size else n
  if i < 0 then .error (if isIndex n then .outOfRange else .notIndex)
  else
    match ps.closed[i.toNat]? with
    | none => .ok default
    | some text => if text.isEmpty then .ok default else ps.intAt n

/-- All parameters that are numbers, in order. -/
def ints (ps : Parameters) : Except ParameterError (List Int) :=
  (ps.closed.toList.mapM fun text => integer? text.toList).map (·.filterMap id)

theorem intAt_natCast (ps : Parameters) (i : Nat) :
    ps.intAt i =
      match ps.closed[i]? with
      | none => .ok 0
      | some text => (integer? text.toList).map (·.getD 0) := by
  rw [intAt, if_pos (Int.natCast_nonneg i), Int.toNat_natCast]

theorem param_natCast (ps : Parameters) (i : Nat) (default : Int) :
    ps.param i default =
      match ps.closed[i]? with
      | none => .ok default
      | some text => if text.isEmpty then .ok default else ps.intAt i := by
  have hi : ¬ (i : Int) < 0 := Int.not_lt.mpr (Int.natCast_nonneg i)
  simp only [param, if_neg hi, Int.toNat_natCast]

end Parameters

end AnsiArt
