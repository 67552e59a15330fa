/-!
# Hexadecimal numbers

Numbers in base 16 with small letters, padded with zeros to a least number of places. The sign of a
negative number is one of the places.
-/

namespace AnsiArt.Hex

/-- The digits of a natural number, padded to at least `places`. -/
def natDigits (places n : Nat) : List Char :=
  let ds := Nat.toDigits 16 n
  List.replicate (places - ds.length) '0' ++ ds

/-- An integer with at least `places` places. -/
def padded (places : Nat) (n : Int) : String :=
  String.ofList
    (if n < 0 then '-' :: natDigits (places - 1) n.natAbs else natDigits places n.natAbs)

/-- An integer with at least two places, the form of a colour channel or a colour number. -/
def byte (n : Int) : String := padded 2 n

/-- A code point with at least four places and capital letters. -/
def codePoint (c : Char) : String := String.ofList ((natDigits 4 c.toNat).map Char.toUpper)

end AnsiArt.Hex
