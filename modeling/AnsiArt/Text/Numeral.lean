/-!
# Numerals

What all places that read or write integers share: the value of a row of digits, and the limit on
the length of a decimal text, beyond which a conversion in either direction is refused.
-/

namespace AnsiArt.Numeral

/-- The number with the given digits, the most significant first. -/
def ofDigits (base : Nat) (digits : List Nat) : Nat := digits.foldl (fun n d => base * n + d) 0

/-- The longest row of decimal digits that is converted; leading zeros count. -/
def maxDigits : Nat := 4300

/-- A row of decimal digits that is longer than `maxDigits`. -/
structure TooLong where
  digits : Nat
  deriving DecidableEq

/-- The wording of a refused conversion, with what more there is to say. -/
def refusal (detail : String) : String :=
  s!"Exceeds the limit ({maxDigits} digits) for integer string conversion{detail}" ++
    "; use sys.set_int_max_str_digits() to increase the limit"

/-- The wording of a refused length. -/
def TooLong.message (e : TooLong) : String := refusal s!": value has {e.digits} digits"

/-- Whether an integer is short enough to be written in decimal digits. -/
def isWritable (n : Int) : Bool := n.natAbs < Nat.pow 10 maxDigits

/-- The value of a row of decimal digits with a sign in front. -/
def ofDecimal (negative : Bool) (digits : List Nat) : Except TooLong Int :=
  if maxDigits < digits.length then .error ⟨digits.length⟩
  else
    let n : Int := ofDigits 10 digits
    .ok (if negative then -n else n)

theorem ofDigits_append (base : Nat) (ds : List Nat) (d : Nat) :
    ofDigits base (ds ++ [d]) = base * ofDigits base ds + d := by
  simp [ofDigits]

end AnsiArt.Numeral
