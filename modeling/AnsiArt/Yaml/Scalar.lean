import AnsiArt.Text.Integer
import AnsiArt.Text.Split
import AnsiArt.Value
import AnsiArt.Yaml.Timestamp

/-!
# Plain scalars

An unquoted word of a settings file is a null, a truth value, an integer, a number with a point, a
date with or without a time, or else a text. Integers may be binary, octal with a leading zero,
hexadecimal, or given in places of sixty separated by colons, which numbers with a point may have
too; underscores between digits are ignored everywhere.

A word can have the form of a number or a date without being one, and then it is refused.
-/

namespace AnsiArt.Yaml

/-- Why a scalar is refused. -/
inductive ScalarError
  | integer (cause : IntegerError)
  | calendar (cause : CalendarError)
  /-- A place of sixty is beyond the numbers with a point. -/
  | placeTooLarge
  /-- A quoted text has a number that is no code point. -/
  | codePoint (cause : CodePointError)

/-- The wording of a refused scalar. -/
def ScalarError.message : ScalarError → String
  | integer cause => cause.message
  | calendar cause => cause.message
  | placeTooLarge => "int too large to convert to float"
  | codePoint cause => cause.message

/-- The spellings of no value. -/
def nullWords : List String := ["", "~", "null", "Null", "NULL"]

/-- The spellings of the truth values. -/
def boolWords : List (String × Bool) :=
  [("yes", true), ("Yes", true), ("YES", true), ("no", false), ("No", false), ("NO", false),
   ("true", true), ("True", true), ("TRUE", true), ("false", false), ("False", false),
   ("FALSE", false), ("on", true), ("On", true), ("ON", true), ("off", false), ("Off", false),
   ("OFF", false)]

/-- The spellings of numbers that are not finite. -/
def floatWords : List (String × Binary64) :=
  [".inf", ".Inf", ".INF", "+.inf", "+.Inf", "+.INF"].map (·, Binary64.infinite false)
    ++ ["-.inf", "-.Inf", "-.INF"].map (·, Binary64.infinite true)
    ++ [".nan", ".NaN", ".NAN"].map (·, Binary64.nan)

/-- A decimal digit or an underscore. -/
def isDigitOrGap (c : Char) : Bool := c.isDigit || c == '_'

/-- The characters of a numeral without its underscores. -/
def dropGaps (cs : List Char) : List Char := cs.filter (· ≠ '_')

/-! ### Integers -/

/-- Whether a text is a row of one or two digits below sixty. -/
def isSexagesimalPlace : List Char → Bool
  | [d] => d.isDigit
  | [t, d] => '0' ≤ t && t ≤ '5' && d.isDigit
  | _ => false

/-- The number given by places of sixty, the most significant first. -/
def ofPlaces (places : List Int) : Int := places.foldl (fun n p => 60 * n + p) 0

/-- The value of an unsigned integer; `none` if the text is none. -/
def unsigned? (cs : List Char) : Option (Except IntegerError Int) :=
  match cs with
  | '0' :: 'b' :: digits =>
    if !digits.isEmpty && digits.all fun c => c == '0' || c == '1' || c == '_' then
      some (Integer.read 2 (dropGaps digits))
    else none
  | '0' :: 'x' :: digits =>
    if !digits.isEmpty && digits.all fun c => (digit? 16 c).isSome && c.toNat < 128 || c == '_' then
      some (Integer.read 16 (dropGaps digits))
    else none
  | ['0'] => some (.ok 0)
  | '0' :: digits =>
    if digits.all fun c => '0' ≤ c && c ≤ '7' || c == '_' then
      some (Integer.read 8 (dropGaps cs))
    else none
  | c :: digits =>
    if c.isDigit then
      if digits.all isDigitOrGap then some (Integer.read 10 (dropGaps cs))
      else
        match splitAll ':' cs with
        | first :: places =>
          if first.all isDigitOrGap && places.all isSexagesimalPlace then
            some (((first :: places).mapM fun p => Integer.read 10 (dropGaps p)).map ofPlaces)
          else none
        | [] => none
    else none
  | [] => none

/-- The value of an integer with an optional sign; `none` if the text is none. -/
def integer? (cs : List Char) : Option (Except IntegerError Int) :=
  match cs with
  | '-' :: rest => (unsigned? rest).map fun r => r.map (- ·)
  | '+' :: rest => unsigned? rest
  | rest => unsigned? rest

/-! ### Numbers with a point -/

/-- The value of the exponent that ends a number: `e`, a sign and digits. -/
def exponent? : List Char → Option Int
  | [] => some 0
  | e :: sign :: digits =>
    if (e == 'e' || e == 'E') && (sign == '+' || sign == '-') && !digits.isEmpty
        && digits.all Char.isDigit then
      let n : Int := Numeral.ofDigits 10 (digits.map fun c => c.toNat - 48)
      some (if sign == '-' then -n else n)
    else none
  | _ => none

/-- The value of an unsigned number with digits, a point, further digits and perhaps an exponent. -/
def pointed? (cs : List Char) : Option Binary64 := do
  let whole := cs.takeWhile isDigitOrGap
  guard (whole.head? != some '_')
  match cs.drop whole.length with
  | '.' :: rest =>
    let part := rest.takeWhile isDigitOrGap
    -- Without digits in front, a digit has to follow the point.
    guard (!whole.isEmpty || (part.head?.any Char.isDigit))
    let exponent ← exponent? (rest.drop part.length)
    let digits := (dropGaps (whole ++ part)).map fun c => c.toNat - 48
    return .ofDecimal false (Numeral.ofDigits 10 digits)
      (exponent - (dropGaps part).length)
  | _ => none

/-- The sum of numbers in places of sixty, the least significant one first, which counts as many
times as the given power of sixty. -/
def sumPlaces (sum : Binary64) (power : Nat) : List Binary64 → Except ScalarError Binary64
  | [] => .ok sum
  | x :: rest =>
    let weight := Binary64.ofNat (Nat.pow 60 power)
    if weight.isFinite then sumPlaces (sum.addUnsigned (x.mulUnsigned weight)) (power + 1) rest
    else .error .placeTooLarge

/-- The value of places of sixty, of which the last one has a point. -/
def pointedPlaces? (cs : List Char) : Option (Except ScalarError Binary64) := do
  let (front, behind) ← cutFirst '.' cs
  guard (behind.all isDigitOrGap)
  match splitAll ':' front with
  | first :: place :: more =>
    guard (first.head?.any Char.isDigit && first.all isDigitOrGap)
    guard ((place :: more).all isSexagesimalPlace)
    let whole := (first :: place :: more).dropLast.map (· ++ ['.'])
    let last := (place :: more).getLastD [] ++ '.' :: behind
    let places ← (whole ++ [last]).mapM pointed?
    return sumPlaces (.ofNat 0) 0 places.reverse
  | _ => none

/-- The value of an unsigned number with a point. -/
def unsignedFloat? (cs : List Char) : Option (Except ScalarError Binary64) :=
  ((pointed? cs).map .ok).or (pointedPlaces? cs)

/-- The value of a number with a point. A sign may stand only where digits are in front of the
point. -/
def float? (cs : List Char) : Option (Except ScalarError Binary64) :=
  match cs with
  | '-' :: '.' :: _ => none
  | '+' :: '.' :: _ => none
  | '-' :: rest => (unsignedFloat? rest).map fun r => r.map Binary64.neg
  | '+' :: rest => unsignedFloat? rest
  | rest => unsignedFloat? rest

/-! ### All scalars -/

/-- What a plain scalar means. -/
inductive PlainMeaning
  /-- As a key it merges another map into the map. -/
  | merge
  /-- As a key it is a text. -/
  | default
  | scalar (r : Except ScalarError Scalar)

/-- The scalar of a date with or without a time. -/
def ofTimestamp : Timestamp → Scalar
  | .date d => .date d
  | .moment m => .moment m

/-- What a plain scalar means. -/
def PlainMeaning.ofText (cs : List Char) : PlainMeaning :=
  let text := String.ofList cs
  if text = "<<" then .merge
  else if text = "=" then .default
  else .scalar <|
    if text ∈ nullWords then .ok .null
    else if let some b := boolWords.lookup text then .ok (.bool b)
    else if let some x := floatWords.lookup text then .ok (.float x)
    else if let some r := integer? cs then (r.map Scalar.int).mapError .integer
    else if let some r := float? cs then r.map .float
    else if let some r := Timestamp.read? cs then (r.map ofTimestamp).mapError .calendar
    else .ok (.text text)

end AnsiArt.Yaml
