import AnsiArt.Decimal.Fixed

/-!
# Shortest decimal texts

A number is shown by the fewest digits that read back as the same number, and of those by the
nearest to it. Numbers of a moderate size are written in full, with at least one digit behind the
point; very large and very small ones with an exponent.
-/

namespace AnsiArt

/-- A row of decimal digits in front of which the point stands after moving it `point` places: the
value is `0.d₁d₂… · 10 ^ point`. -/
structure DecimalDigits where
  digits : List Char
  point : Int

namespace Binary64

/-- The exponent of the greatest power of ten that is not above a positive fraction. -/
def decimalOrder (num den : Nat) : Int :=
  let guess : Int := ((Nat.toDigits 10 num).length : Int) - (Nat.toDigits 10 den).length
  let notAbove : Bool :=
    if 0 ≤ guess then den * Nat.pow 10 guess.toNat ≤ num else den ≤ num * Nat.pow 10 (-guess).toNat
  -- The number of digits is off by less than one place, to one side only.
  if notAbove then guess else guess - 1

/-- The two whole multiples of `10 ^ exponent` around a fraction, the nearer one first. -/
def neighbours (num den : Nat) (exponent : Int) : Nat × Nat :=
  let (p, q) :=
    if 0 ≤ exponent then (num, den * Nat.pow 10 exponent.toNat)
    else (num * Nat.pow 10 (-exponent).toNat, den)
  let low := p / q
  if roundQuotient p q = low then (low, low + 1) else (low + 1, low)

/-- The first grid, from coarse to fine, with a point that reads back as the number. -/
def searchShortest (x : Binary64) (num den : Nat) (order : Int) : Nat → Nat → Nat × Int
  | places, 0 =>
    let exponent := order - places
    ((neighbours num den exponent).1, exponent)
  | places, more + 1 =>
    let exponent := order - places
    let (near, far) := neighbours num den exponent
    if ofDecimal false near exponent = x then (near, exponent)
    else if ofDecimal false far exponent = x then (far, exponent)
    else searchShortest x num den order (places + 1) more

/-- The shortest digits of a positive number. -/
def shortestDigits (m : Nat) (e : Int) : DecimalDigits :=
  let (num, den) := fraction m e
  -- Seventeen digits always suffice.
  let (n, exponent) := searchShortest (.finite false m e) num den (decimalOrder num den) 0 16
  let ds := Nat.toDigits 10 n
  ⟨(ds.reverse.dropWhile (· == '0')).reverse, ds.length + exponent⟩

/-- The layout of a row of digits: in full while the point stays within four places in front of the
digits and sixteen behind the first, else with an exponent of at least two digits. -/
def layout (d : DecimalDigits) : List Char :=
  let ds := d.digits
  let n := ds.length
  if -4 < d.point ∧ d.point ≤ 16 then
    if d.point ≤ 0 then ['0', '.'] ++ List.replicate (-d.point).toNat '0' ++ ds
    else
      let k := d.point.toNat
      if n ≤ k then ds ++ List.replicate (k - n) '0' ++ ['.', '0']
      else ds.take k ++ '.' :: ds.drop k
  else
    let e := d.point - 1
    let es := Nat.toDigits 10 e.natAbs
    let exponent := 'e' :: (if e < 0 then '-' else '+') :: List.replicate (2 - es.length) '0' ++ es
    ds.take 1 ++ (if 1 < n then '.' :: ds.drop 1 else []) ++ exponent

/-- A number as it is shown in messages. -/
def shortest : Binary64 → String
  | .finite negative m e =>
    String.ofList (signed negative (if m = 0 then ['0', '.', '0'] else layout (shortestDigits m e)))
  | .infinite negative => String.ofList (signed negative ['i', 'n', 'f'])
  | .nan => "nan"

end Binary64

end AnsiArt
