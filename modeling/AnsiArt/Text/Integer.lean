import AnsiArt.Text.CharClass
import AnsiArt.Text.DecimalDigit
import AnsiArt.Text.Numeral
import AnsiArt.Text.Quoted

/-!
# Integers written by people

An integer may have blanks around it, one sign, digits of any script, and single underscores between
the digits. In base 16 the digits may follow a mark `0x`.
-/

namespace AnsiArt

/-- Why a text is not read as an integer. -/
inductive IntegerError
  | malformed (base : Nat) (text : String)
  | tooLong (e : Numeral.TooLong)
  deriving DecidableEq

/-- The wording of a refused text. -/
def IntegerError.message : IntegerError → String
  | malformed base text => s!"invalid literal for int() with base {base}: {Quoted.quote text}"
  | tooLong e => e.message

namespace Integer

/-- The digits behind the first one. An underscore may stand before a digit. -/
def moreDigits? (base : Nat) : List Char → Option (List Nat)
  | [] => some []
  | '_' :: c :: rest => do
    let d ← digit? base c
    let ds ← moreDigits? base rest
    return d :: ds
  | c :: rest => do
    let d ← digit? base c
    let ds ← moreDigits? base rest
    return d :: ds

/-- A row of at least one digit. -/
def digits? (base : Nat) : List Char → Option (List Nat)
  | [] => none
  | c :: rest => do
    let d ← digit? base c
    let ds ← moreDigits? base rest
    return d :: ds

/-- Drops the mark of base 16 with the underscore that may follow it. -/
def dropMark (base : Nat) : List Char → List Char
  | '0' :: m :: rest =>
    if base = 16 ∧ (m = 'x' ∨ m = 'X') then
      match rest with
      | '_' :: digits => digits
      | digits => digits
    else '0' :: m :: rest
  | text => text

/-- Splits off a sign. -/
def splitSign : List Char → Bool × List Char
  | '-' :: rest => (true, rest)
  | '+' :: rest => (false, rest)
  | rest => (false, rest)

/-- The blanks that may surround a number: all but the separators of records. -/
def surroundsNumber (c : Char) : Bool := isBlank c && !(0x1c ≤ c.toNat && c.toNat ≤ 0x1f)

/-- The sign and the digits of a text. -/
def signedDigits? (base : Nat) (text : List Char) : Option (Bool × List Nat) :=
  let (negative, rest) := splitSign (trimWith surroundsNumber text)
  (digits? base (dropMark base rest)).map (negative, ·)

/-- The integer that a text spells. Only decimal texts have a limit on their length. -/
def read (base : Nat) (text : List Char) : Except IntegerError Int :=
  match signedDigits? base text with
  | none => .error (.malformed base (String.ofList text))
  | some (negative, ds) =>
    if base = 10 then (Numeral.ofDecimal negative ds).mapError .tooLong
    else
      let n : Int := Numeral.ofDigits base ds
      .ok (if negative then -n else n)

end Integer

end AnsiArt
