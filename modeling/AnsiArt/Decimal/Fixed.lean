import AnsiArt.Decimal.Binary64

/-!
# Numbers with a fixed number of places

The decimal text of a number with a given number of places behind the point, correctly rounded from
the exact value of the number, a half going to the even neighbour.
-/

namespace AnsiArt

/-- The digits of a natural number with a point in front of the last `places`. -/
def pointed (places n : Nat) : List Char :=
  let ds := Nat.toDigits 10 n
  let ds := List.replicate (places + 1 - ds.length) '0' ++ ds
  if places = 0 then ds
  else ds.take (ds.length - places) ++ '.' :: ds.drop (ds.length - places)

/-- A sign in front of a text. -/
def signed (negative : Bool) (text : List Char) : List Char :=
  if negative then '-' :: text else text

/-- A number with `places` places behind the point. -/
def Binary64.fixed (places : Nat) : Binary64 → String
  | .finite negative m e =>
    let (num, den) := fraction m e
    String.ofList (signed negative (pointed places (roundQuotient (num * Nat.pow 10 places) den)))
  | .infinite negative => String.ofList (signed negative ['i', 'n', 'f'])
  | .nan => "nan"

end AnsiArt
