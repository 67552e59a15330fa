/-!
# Binary floating-point numbers

Numbers with 53 significant bits and a bounded exponent, as whole values: a finite number is
`mantissa · 2 ^ exponent`. Arithmetic is exact on fractions of natural numbers and rounds once, to
the nearest number of the format, a tie going to the even mantissa.
-/

namespace AnsiArt

/-- The nearest natural number to a quotient, the even one of two at the same distance. -/
def roundQuotient (num den : Nat) : Nat :=
  let q := num / den
  let r := num % den
  if 2 * r < den then q
  else if den < 2 * r then q + 1
  else if q % 2 = 0 then q
  else q + 1

/-- Why a computation has no result. -/
inductive NumberError
  /-- A quotient of integers is beyond the greatest finite number. -/
  | quotientTooLarge
  /-- No integer is nearest to infinity. -/
  | infinite
  /-- No integer is nearest to what is not a number. -/
  | notNumber
  deriving DecidableEq

/-- The wording of such an error. -/
def NumberError.message : NumberError → String
  | quotientTooLarge => "integer division result too large for a float"
  | infinite => "cannot convert float infinity to integer"
  | notNumber => "cannot convert float NaN to integer"

/-- A number of the format. -/
inductive Binary64
  | finite (negative : Bool) (mantissa : Nat) (exponent : Int)
  | infinite (negative : Bool)
  | nan
  deriving DecidableEq

namespace Binary64

/-- The least exponent of a mantissa. -/
def minExponent : Int := -1074

/-- The greatest exponent of a mantissa of full length. -/
def maxExponent : Int := 971

/-- `mantissa · 2 ^ exponent` as a fraction. -/
def fraction (mantissa : Nat) (exponent : Int) : Nat × Nat :=
  if 0 ≤ exponent then (mantissa * Nat.pow 2 exponent.toNat, 1)
  else (mantissa, Nat.pow 2 (-exponent).toNat)

/-- The exponent of the greatest power of two that is not above a positive fraction. -/
def binaryOrder (num den : Nat) : Int :=
  let guess : Int := (num.log2 : Int) - den.log2
  let (p, q) := fraction 1 guess
  -- The quotient of the powers is off by less than a factor of two, to one side only.
  if p * den ≤ num * q then guess else guess - 1

/-- The nearest number of the format to a fraction. -/
def ofFraction (negative : Bool) (num den : Nat) : Binary64 :=
  if num = 0 ∨ den = 0 then .finite negative 0 minExponent
  else
    let e := max (binaryOrder num den - 52) minExponent
    let m := if 0 ≤ e then roundQuotient num (den * Nat.pow 2 e.toNat)
      else roundQuotient (num * Nat.pow 2 (-e).toNat) den
    let (m, e) := if m = Nat.pow 2 53 then (Nat.pow 2 52, e + 1) else (m, e)
    if maxExponent < e then .infinite negative else .finite negative m e

/-- The nearest number to `digits · 10 ^ exponent`. Values that are far out of the range of the
format are not computed. -/
def ofDecimal (negative : Bool) (digits : Nat) (exponent : Int) : Binary64 :=
  if digits = 0 ∨ exponent + (digits.log2 / 3 : Nat) < -400 then ofFraction negative 0 1
  else if 400 < exponent then .infinite negative
  else if 0 ≤ exponent then ofFraction negative (digits * Nat.pow 10 exponent.toNat) 1
  else ofFraction negative digits (Nat.pow 10 (-exponent).toNat)

/-- Whether a number is finite. -/
def isFinite : Binary64 → Bool
  | .finite .. => true
  | _ => false

/-- The rounded quotient of two integers; the divisor is not 0. A quotient that is too large is
infinite. -/
def divide (a b : Int) : Binary64 := ofFraction ((a < 0) != (b < 0)) a.natAbs b.natAbs

/-- Checks that a quotient of two integers is not too large. -/
def checkQuotient (a b : Int) : Except NumberError Unit :=
  if (divide a b).isFinite then .ok () else .error .quotientTooLarge

/-- The rounded product with a natural number. -/
def scale (x : Binary64) (n : Nat) : Binary64 :=
  match x with
  | .finite negative m e =>
    let (num, den) := fraction m e
    ofFraction negative (num * n) den
  | other => other

/-- The nearest number to a natural number. -/
def ofNat (n : Nat) : Binary64 := ofFraction false n 1

/-- The number with the other sign. -/
def neg : Binary64 → Binary64
  | .finite negative m e => .finite (!negative) m e
  | .infinite negative => .infinite (!negative)
  | .nan => .nan

/-- The rounded sum of numbers that are not negative. -/
def addUnsigned : Binary64 → Binary64 → Binary64
  | .finite _ m e, .finite _ n f =>
    let low := min e f
    let sum := m * Nat.pow 2 (e - low).toNat + n * Nat.pow 2 (f - low).toNat
    let (num, den) := fraction sum low
    ofFraction false num den
  | .nan, _ => .nan
  | _, .nan => .nan
  | _, _ => .infinite false

/-- The rounded product of numbers that are not negative and, if infinite, not multiplied by 0. -/
def mulUnsigned : Binary64 → Binary64 → Binary64
  | .finite _ m e, .finite _ n f =>
    let (num, den) := fraction (m * n) (e + f)
    ofFraction false num den
  | .nan, _ => .nan
  | _, .nan => .nan
  | _, _ => .infinite false

/-- The nearest integer, the even one of two at the same distance; 0 for what is not finite. -/
def round : Binary64 → Int
  | .finite negative m e =>
    let (num, den) := fraction m e
    let n : Int := roundQuotient num den
    if negative then -n else n
  | _ => 0

/-- Checks that a number has a nearest integer. -/
def checkRound : Binary64 → Except NumberError Unit
  | .finite .. => .ok ()
  | .infinite _ => .error .infinite
  | .nan => .error .notNumber

/-- The integer that a number is, if it is one. -/
def whole? : Binary64 → Option Int
  | .finite negative m e =>
    let (num, den) := fraction m e
    if num % den = 0 then
      let n : Int := num / den
      some (if negative then -n else n)
    else none
  | _ => none

end Binary64

end AnsiArt
