/-!
# Code points

The numbers of characters. A text that is spelled by numbers may hold some that belong to no
character, those of surrogates, and then it is no `String`.
-/

namespace AnsiArt

/-- Why a number is no code point. -/
inductive CodePointError
  /-- It is above the last code point. -/
  | outOfRange
  /-- It has more than 31 bits. -/
  | tooLarge
  deriving DecidableEq

/-- The wording of a refused number. -/
def CodePointError.message : CodePointError → String
  | outOfRange => "chr() arg not in range(0x110000)"
  | tooLarge => "Python int too large to convert to C int"

namespace CodePoint

/-- The first number that is no code point. -/
def limit : Nat := 0x110000

/-- A number as a code point, surrogates included. -/
def ofNat (n : Nat) : Except CodePointError Nat :=
  if n < limit then .ok n else if n < 0x80000000 then .error .outOfRange else .error .tooLarge

/-- The character of a code point, unless it is a surrogate. -/
def char? (n : Nat) : Option Char :=
  if h : n.isValidChar then some (Char.ofNatAux n h) else none

/-- Every character belongs to its number. -/
theorem char?_toNat (c : Char) : char? c.toNat = some c := by
  have h : c.toNat.isValidChar := c.valid
  exact dif_pos h

end CodePoint

end AnsiArt
